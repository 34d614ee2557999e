import Mathlib
import ToolView.Proofs.Policy
import ToolView.Proofs.Bridge.Lifecycle
import ToolView.Proofs.View.Creation
import ToolView.Proofs.View.Needs

/-! The page that a bridge sends to the sandbox. The policy of a plan is a text, and the page carries
the names that it was made of, less those that are no sources; the sandbox that makes its own policy
of them comes to the same text. -/

namespace ToolView

namespace ViewSources

theorem kept_kept (names : List String) : kept (kept names) = kept names := by
  simp only [kept,List.filter_filter,Bool.and_self]

theorem keptOf_kept (names : Option (List String)) : keptOf (names.map kept) = keptOf names := by
  cases names with
  | none => rfl
  | some names => exact kept_kept names

theorem sanitize_sanitize (s : ViewSources) : s.sanitize.sanitize = s.sanitize := by
  have twice (names : Option (List String)) : (names.map kept).map kept = names.map kept := by
    cases names with
    | none => rfl
    | some names => exact congrArg some (kept_kept names)
  simp only [sanitize,twice]

theorem list_sanitize (s : ViewSources) {list : ViewSources → Option (List String)}
    (member : list ∈ lists) : list s.sanitize = (list s).map kept := by
  simp only [lists,List.mem_cons,List.not_mem_nil,or_false] at member
  rcases member with rfl | rfl | rfl | rfl <;> rfl

theorem bind_sanitize (s : Option ViewSources) {list : ViewSources → Option (List String)}
    (member : list ∈ lists) : (s.map sanitize).bind list = (s.bind list).map kept := by
  cases s with
  | none => rfl
  | some s => exact list_sanitize s member

end ViewSources

theorem Csp.policy_sanitize (s : Option ViewSources) :
    policy (s.map ViewSources.sanitize) = policy s := by
  apply policy_congr
  intro list member
  rw [ViewSources.bind_sanitize s member,ViewSources.keptOf_kept]

namespace Bridge

/-- What a sandbox finds in the page of a plan whose view declares these sources. -/
structure Shows (plan : RenderPlan) (declared : Option ViewSources) (params : Json) : Prop where
  html : params.get? "html" = some (.str plan.content)
  sandbox : params.get? "sandbox" = some (.str plan.sandbox.sandbox)
  csp : ∃ sources : Option ViewSources,
    (params.get? "csp").map ViewSources.decode = sources.map .ok ∧
    Csp.policy sources = plan.sandbox.csp ∧ (sources = none ↔ declared = none) ∧
    ∀ list ∈ ViewSources.lists, sources.bind list =
      (declared.bind list).map fun names => names.filter fun n => ViewSources.Plain n

theorem turn_plan {b after : Bridge} {input : Input} {posted : List Rpc.Message}
    (turn : Turn b input posted after) : after.plan = b.plan := by
  cases turn <;> rfl

theorem final_plan (b : Bridge) (inputs : List (Surroundings × Input)) :
    (b.final inputs).plan = b.plan :=
  final_keeps (P := fun after => after.plan = b.plan)
    (fun _ _ _ _ turn same => (turn_plan turn).trans same) rfl inputs

/-- A bridge posts no other page than that of its plan. -/
theorem eq_resourceReady {b after : Bridge} {input : Input} {posted : List Rpc.Message}
    (turn : Turn b input posted after) (settled : Settled b) {page : Rpc.Message}
    (member : page ∈ posted) (ready : isResourceReady page) :
    page = .notification b.resourceReady := by
  have apart {n : Rpc.Notification} (forView : isForView n) (same : page = .notification n) :
      page = .notification b.resourceReady := by
    rw [same,not_resourceReady forView] at ready
    cases ready
  cases turn with
  | loaded message n said method waiting => exact List.mem_singleton.mp member
  | listens message n said method waiting =>
    obtain ⟨n,held,rfl⟩ := List.mem_map.mp member
    exact apart (settled.queued n (mem_inOrder.mp held)) rfl
  | told input n tells listens =>
    exact apart (isForView_of_tells tells) (List.mem_singleton.mp member)
  | changed context listens =>
    exact apart (isForView_contextChanged context) (List.mem_singleton.mp member)
  | answered | introduced | granted | asked =>
    rw [List.mem_singleton.mp member] at ready
    cases ready
  | _ => cases member

/-- The first time that the sandbox says it is there, it gets the page. -/
theorem posted_of_proxyReady {b : Bridge} (s : Surroundings) {input : Input} {n : Rpc.Notification}
    (waiting : b.phase = .awaitingProxy) (said : input.said? = some (.notification n))
    (method : n.method = Method.proxyReady) :
    (b.step s input).posted = [.notification b.resourceReady] := by
  obtain ⟨message,rfl,read⟩ := message_of_said said
  have opened : b.phase ≠ .closed := by
    rw [waiting]
    decide
  simp only [step,handleMessage,if_neg opened,read,notification,if_pos method,if_pos waiting,
    Output.posted]
  rfl

theorem ResourceReadyParams.get?_encode (p : ResourceReadyParams) :
    p.encode.get? "html" = some (.str p.html) ∧ p.encode.get? "sandbox" = p.sandbox.map .str ∧
      p.encode.get? "csp" = p.sources.map ViewSources.encode := by
  have distinct : ["html","sandbox","csp","permissions"].Nodup := by decide
  exact ⟨Json.get?_record (by exact distinct) "html",Json.get?_record (by exact distinct) "sandbox",
    Json.get?_record (by exact distinct) "csp"⟩

theorem shows_resourceReady {b : Bridge}
    (policy : b.plan.sandbox.csp = Csp.policy (b.plan.needs.bind (·.sources))) :
    ∃ params, b.resourceReady.encode.get? "params" = some params ∧
      Shows b.plan (b.plan.needs.bind (·.sources)) params := by
  have distinct : ["jsonrpc","method","params"].Nodup := by decide
  refine ⟨_,Json.get?_record (by exact distinct) "params",?_⟩
  obtain ⟨html,sandbox,csp⟩ := ResourceReadyParams.get?_encode
    ⟨b.plan.content,some b.plan.sandbox.sandbox,
      (b.plan.needs.bind (·.sources)).map ViewSources.sanitize,b.plan.needs.bind (·.permissions)⟩
  refine ⟨html,sandbox,(b.plan.needs.bind (·.sources)).map ViewSources.sanitize,?_,?_,?_,?_⟩
  · exact (congrArg _ csp).trans (ViewSources.readsBack.map_encode _)
  · rw [Csp.policy_sanitize,policy]
  · exact Option.map_eq_none_iff
  · intro list member
    rw [ViewSources.bind_sanitize _ member]
    exact congrArg (Option.map · _) (funext ViewSources.kept_eq_filter)

/-- The page is sent when the sandbox is there, and no other page is: it holds the content of the
plan, the attribute of the plan, and the sources that the contents declare without those that are
none. These make the policy of the plan, for a policy is made of what is left of its sources, and
leaving out once is enough. -/
theorem page_policy :
    (∀ s : ViewSources, s.sanitize.sanitize = s.sanitize ∧
      Csp.policy (some s.sanitize) = Csp.policy (some s)) ∧
    ∀ (c : Contents) (sandbox : SandboxConfig) (b : Bridge) (earlier : List Input),
      RenderPlan.ofContents c sandbox = .ok b.plan → Begun b earlier →
      ∀ inputs s input, let m : Moment := ⟨b.final inputs,s,input⟩
        (∀ n, m.before.phase = .awaitingProxy → input.said? = some (.notification n) →
          n.method = Method.proxyReady → ∃ page, m.posted = [page] ∧ isResourceReady page) ∧
        ∀ page ∈ m.posted, isResourceReady page →
          ∃ params, page.encode.get? "params" = some params ∧
            Shows b.plan ((ViewNeeds.ofContents? c).bind (·.sources)) params := by
  refine ⟨fun s => ⟨s.sanitize_sanitize,Csp.policy_sanitize (some s)⟩,?_⟩
  intro c sandbox b earlier planned begun inputs s input m
  obtain ⟨mode,text,content,-,-,-,plan⟩ := RenderPlan.ofContents_eq_ok planned
  -- The page is made of the plan alone, and no run changes the plan.
  have same : (b.final inputs).plan = b.plan := final_plan b inputs
  have needs : (b.final inputs).plan.needs = ViewNeeds.ofContents? c := by rw [same,plan]
  have policy : (b.final inputs).plan.sandbox.csp =
      Csp.policy ((b.final inputs).plan.needs.bind (·.sources)) := by
    rw [same,plan]
    rfl
  refine ⟨fun n waiting said method => ?_,fun page member ready => ?_⟩
  · exact ⟨_,posted_of_proxyReady s waiting said method,rfl⟩
  · rw [eq_resourceReady m.turn (final_settled begun.settled inputs) member ready,← needs,← same]
    exact shows_resourceReady policy

namespace Sample

def needs : ViewNeeds := ⟨some Csp.Sample.hostile,none,none,none⟩

def contents : Contents :=
  ⟨"ui://sample/view",some ViewKind.app.mimeType,.text "<p>sample</p>",some needs.toMeta⟩

def guarded : RenderPlan :=
  ⟨"ui://sample/view",.app,"<p>sample</p>",some needs,⟨none,none,.empty⟩,
    .of host.sandbox (some needs)⟩

end Sample

/-- The page carries the servers, and a list of which nothing is left is empty but not missing. -/
theorem page_policy_guarded :
    let m : Moment := ⟨start Sample.host Sample.guarded,Sample.surroundings,
      (Sample.tells Method.proxyReady).2⟩
    RenderPlan.ofContents Sample.contents Sample.host.sandbox = .ok Sample.guarded ∧
      Begun (start Sample.host Sample.guarded) [] ∧
      ∃ page params, m.posted = [page] ∧ page.encode.get? "params" = some params ∧
        params.get? "csp" = some (ViewSources.encode ⟨some ["https://api.example"],
          some ["https://cdn.example"],some [],none⟩) ∧
        Shows Sample.guarded (some Csp.Sample.hostile) params := by
  intro m
  have planned : RenderPlan.ofContents Sample.contents Sample.host.sandbox = .ok Sample.guarded := by
    decide +kernel
  have begun : Begun (start Sample.host Sample.guarded) [] := .new Sample.host Sample.guarded
  obtain ⟨-,pages⟩ := page_policy
  obtain ⟨sent,shown⟩ := pages _ _ _ _ planned begun [] Sample.surroundings
    (Sample.tells Method.proxyReady).2
  obtain ⟨page,posted,ready⟩ := sent (.of Method.proxyReady none) rfl (by decide +kernel) rfl
  obtain ⟨params,there,shows⟩ := shown page (posted ▸ List.mem_singleton_self page) ready
  have carried : m.posted.map (fun page => (page.encode.get? "params").bind (·.get? "csp")) =
      [some (ViewSources.encode ⟨some ["https://api.example"],some ["https://cdn.example"],some [],
        none⟩)] := by
    decide +kernel
  rw [show m.posted = [page] from posted,List.map_singleton,there] at carried
  exact ⟨planned,begun,page,params,posted,there,List.head_eq_of_cons_eq carried,shows⟩

end Bridge

end ToolView
