import Mathlib
import ToolView.Proofs.Bridge.Lifecycle

/-! What the host tells a view reaches it once and in order. Nothing is delivered before the view
listens; then all that was held back is delivered, the input of the tool first and only the last
change of the surroundings; after that everything is delivered at once, until the view is asked to
end. -/

namespace ToolView.Bridge

namespace Input

/-- What an input would have the bridge tell the view. -/
def wants? : Input → Option Rpc.Notification
  | .hostContext context => some (contextChanged context)
  | input => input.tells?

/-- What is held back for a view that does not listen yet. A change of its surroundings is held
back only once it has been introduced, since it is shown them then. -/
def queued? (phase : Phase) : Input → Option Rpc.Notification
  | .hostContext context =>
    if phase = .initializing then some (contextChanged context) else none
  | input => input.tells?

def Opens (phase : Phase) (input : Input) : Prop :=
  phase = .initializing ∧ ∃ n, input.said? = some (.notification n) ∧ n.method = Method.initialized

def isTeardown : Input → Bool
  | .teardown _ => true
  | _ => false

end Input

def forView? : Rpc.Message → Option Rpc.Notification
  | .notification n => if isForView n then some n else none
  | _ => none

namespace Moment

def delivered (m : Moment) : List Rpc.Notification := m.posted.filterMap forView?

def queued? (m : Moment) : Option Rpc.Notification := m.input.queued? m.before.phase

def Opens (m : Moment) : Prop := m.input.Opens m.before.phase

end Moment

/-- Of the changes of the surroundings only the last. -/
def latest : List Rpc.Notification → List Rpc.Notification
  | [] => []
  | n :: rest =>
    if isContextChange n ∧ rest.any isContextChange then latest rest else n :: latest rest

/-- What has been held back by the end of a history: all input of the tool in the order of the
calls, then all else in the order of the calls, with one change of the surroundings at most. -/
def heldBack (earlier : List Input) (past : List Moment) : List Rpc.Notification :=
  let queued := earlier.filterMap Input.tells? ++ past.filterMap Moment.queued?
  queued.filter isToolInput ++ latest (queued.filter (!isToolInput ·))

theorem latest_append_kept (ns : List Rpc.Notification) {n : Rpc.Notification}
    (kept : isContextChange n = false) : latest (ns ++ [n]) = latest ns ++ [n] := by
  induction ns with
  | nil => simp [latest,kept]
  | cons first rest ih =>
    have same : (rest ++ [n]).any isContextChange = rest.any isContextChange := by simp [kept]
    rw [List.cons_append,latest,latest,same,ih]
    split <;> rfl

theorem latest_append_change (ns : List Rpc.Notification) {n : Rpc.Notification}
    (change : isContextChange n) :
    latest (ns ++ [n]) = (latest ns).filter (!isContextChange ·) ++ [n] := by
  induction ns with
  | nil => simp [latest]
  | cons first rest ih =>
    have later : (rest ++ [n]).any isContextChange := by simp [change]
    rw [List.cons_append,latest,latest,ih]
    cases here : isContextChange first <;> cases there : rest.any isContextChange <;>
      simp [here,later]

theorem not_toolInput {n : Rpc.Notification} (change : isContextChange n) :
    isToolInput n = false := by
  have method : n.method = Method.contextChanged := beq_iff_eq.mp change
  rw [isToolInput,method]
  decide

theorem latest_filter {p : Rpc.Notification → Bool}
    (apart : ∀ n, isContextChange n → p n = false) (ns : List Rpc.Notification) :
    (latest ns).filter p = ns.filter p := by
  induction ns with
  | nil => rfl
  | cons first rest ih =>
    rw [latest]
    split_ifs with replaced
    · rw [ih,List.filter_cons_of_neg (by simp [apart first replaced.1])]
    · rw [List.filter_cons,List.filter_cons,ih]

theorem latest_filter_rest (ns : List Rpc.Notification) :
    (latest ns).filter (!isToolInput ·) = latest (ns.filter (!isToolInput ·)) := by
  have changes (rest : List Rpc.Notification) :
      (rest.filter (!isToolInput ·)).any isContextChange = rest.any isContextChange := by
    rw [List.any_filter]
    congr 1
    funext n
    cases change : isContextChange n with
    | false => rw [Bool.and_false]
    | true => rw [not_toolInput change]; rfl
  induction ns with
  | nil => rfl
  | cons first rest ih =>
    cases input : isToolInput first with
    | true =>
      have kept : isContextChange first = false :=
        Bool.eq_false_iff.mpr fun change => by rw [not_toolInput change] at input; cases input
      rw [latest,if_neg (by simp [kept])]
      rw [List.filter_cons_of_neg (by simp [input]),List.filter_cons_of_neg (by simp [input]),ih]
    | false =>
      rw [List.filter_cons_of_pos (by simp [input]),latest,latest,changes]
      split_ifs with replaced
      · exact ih
      · rw [List.filter_cons_of_pos (by simp [input]),ih]

theorem inOrder_latest (ns : List Rpc.Notification) :
    inOrder (latest ns) = ns.filter isToolInput ++ latest (ns.filter (!isToolInput ·)) := by
  rw [inOrder,latest_filter fun _ => not_toolInput,latest_filter_rest]

theorem kept_of_tells {input : Input} {n : Rpc.Notification} (tells : input.tells? = some n) :
    isContextChange n = false := by
  cases input <;> cases tells <;> simp [isContextChange,Rpc.Notification.of] <;> decide

theorem forView_some {n : Rpc.Notification} (forView : isForView n) :
    forView? (.notification n) = some n := if_pos forView

theorem delivered_notifications {ns : List Rpc.Notification} (forView : ∀ n ∈ ns, isForView n) :
    (ns.map Rpc.Message.notification).filterMap forView? = ns := by
  induction ns with
  | nil => rfl
  | cons n ns ih =>
    rw [List.map_cons,List.filterMap_cons_some (forView_some (forView n List.mem_cons_self)),
      ih fun other member => forView other (List.mem_cons_of_mem _ member)]

theorem of_tells {input : Input} {n : Rpc.Notification} (tells : input.tells? = some n) :
    input.wants? = some n ∧ (∀ phase, input.queued? phase = some n) ∧
      input.isTeardown = false := by
  cases input <;> first | exact ⟨tells,fun _ => tells,rfl⟩ | cases tells

def enqueue (pending : List Rpc.Notification) (n : Rpc.Notification) : List Rpc.Notification :=
  if isContextChange n then pending.filter (!isContextChange ·) ++ [n] else pending ++ [n]

theorem latest_append (ns : List Rpc.Notification) (n : Rpc.Notification) :
    latest (ns ++ [n]) = enqueue (latest ns) n := by
  unfold enqueue
  split_ifs with change
  · exact latest_append_change ns change
  · exact latest_append_kept ns (Bool.eq_false_iff.mpr change)

variable {b after : Bridge} {input : Input} {posted : List Rpc.Message}

/-- Before the view listens nothing is delivered, and what it is to be told is held back. -/
theorem early_turn (turn : Turn b input posted after) (early : b.phase < .initialized)
    (shut : ¬ input.Opens b.phase) :
    posted.filterMap forView? = [] ∧
    (input.isTeardown = false → after.phase < .initialized ∧
      after.pending = (input.queued? b.phase).elim b.pending (enqueue b.pending)) := by
  have other {p : Phase} (phase : b.phase = p) (late : .initialized ≤ p) : False :=
    absurd early (not_lt.mpr (phase ▸ late))
  cases turn with
  | unheard message passed => exact ⟨rfl,fun _ => ⟨early,rfl⟩⟩
  | answered message r reply tools said opened id other => exact ⟨rfl,fun _ => ⟨early,rfl⟩⟩
  | introduced message r info result said method before shown =>
    exact ⟨rfl,fun _ => ⟨show Phase.initializing < .initialized by decide,rfl⟩⟩
  | granted message r mode said method opened => exact ⟨rfl,fun _ => ⟨early,rfl⟩⟩
  | loaded message n said method waiting =>
    exact ⟨rfl,fun _ => ⟨show Phase.loaded < .initialized by decide,rfl⟩⟩
  | listens message n said method waiting =>
    exact absurd ⟨waiting,n,said_message said,method⟩ shut
  | ended message r said waiting asked => exact (other waiting (by decide)).elim
  | told input n tells listens => exact (other listens le_rfl).elim
  | held input n tells before =>
    refine ⟨rfl,fun _ => ⟨early,?_⟩⟩
    rw [(of_tells tells).2.1,Option.elim_some,enqueue,kept_of_tells tells]
    rfl
  | dropped input n tells late => exact absurd early (not_lt.mpr (le_trans (by decide) late))
  | changed context listens => exact (other listens le_rfl).elim
  | changeHeld context introduced =>
    refine ⟨rfl,fun _ => ⟨early,?_⟩⟩
    rw [Input.queued?,if_pos introduced]
    rfl
  | changeKept context apart =>
    refine ⟨rfl,fun _ => ⟨early,?_⟩⟩
    rw [Input.queued?,if_neg apart.1]
    rfl
  | closedAtOnce reason before => exact ⟨rfl,nofun⟩
  | asked reason alive => exact ⟨rfl,nofun⟩
  | endsAlready reason late => exact ⟨rfl,nofun⟩

theorem opens_turn (turn : Turn b input posted after) (opens : input.Opens b.phase) :
    posted = (inOrder b.pending).map .notification ∧ after.phase = .initialized := by
  obtain ⟨introduced,n,heard,method⟩ := opens
  have other {message : Json} {m : Rpc.Message} (said : Rpc.Message.decode message = .ok m)
      (heard : (Input.message message).said? = some (.notification n)) :
      m = .notification n := by
    rw [said_message said] at heard
    exact Option.some.inj heard
  cases turn with
  | unheard message passed =>
    rw [heard] at passed
    exact absurd introduced ((passed (by rw [introduced]; decide)).2 method)
  | answered message r reply tools said opened id apart => cases other said heard
  | introduced message r info result said apart early shown => cases other said heard
  | granted message r mode said apart opened => cases other said heard
  | loaded message n said apart waiting => cases introduced.symm.trans waiting
  | listens message n said apart waiting => exact ⟨rfl,rfl⟩
  | ended message r said waiting asked => cases other said heard
  | told input n tells listens => cases (said_of_tells tells).symm.trans heard
  | held input n tells before => cases (said_of_tells tells).symm.trans heard
  | dropped input n tells late => cases (said_of_tells tells).symm.trans heard
  | _ => cases heard

/-- A view that listens is told everything at once. -/
theorem open_turn (turn : Turn b input posted after) (listens : b.phase = .initialized) :
    posted.filterMap forView? = input.wants?.toList ∧
      (∀ n, input.wants? = some n → posted = [.notification n]) ∧
      (input.isTeardown = false → after.phase = .initialized) := by
  have other {p : Phase} (phase : b.phase = p) (apart : p ≠ .initialized) : False :=
    apart (phase.symm.trans listens)
  cases turn with
  | unheard message passed => exact ⟨rfl,nofun,fun _ => listens⟩
  | answered message r reply tools said opened id apart => exact ⟨rfl,nofun,fun _ => listens⟩
  | introduced message r info result said method early shown =>
    rw [listens] at early
    exact absurd early (by decide)
  | granted message r mode said method opened => exact ⟨rfl,nofun,fun _ => listens⟩
  | loaded message n said method waiting => exact (other waiting (by decide)).elim
  | listens message n said method waiting => exact (other waiting (by decide)).elim
  | ended message r said waiting asked => exact (other waiting (by decide)).elim
  | told input n tells _ =>
    obtain ⟨wants,-,-⟩ := of_tells tells
    rw [wants]
    refine ⟨?_,?_,fun _ => listens⟩
    · exact List.filterMap_cons_some (forView_some (isForView_of_tells tells))
    · intro m same
      rw [Option.some.inj same]
  | held input n tells early => exact absurd early (listens ▸ lt_irrefl _)
  | dropped input n tells late =>
    rw [listens] at late
    exact absurd late (by decide)
  | changed context _ =>
    refine ⟨rfl,?_,fun _ => listens⟩
    intro m same
    rw [← Option.some.inj same]
  | changeHeld context introduced => exact (other introduced (by decide)).elim
  | changeKept context apart => exact absurd listens apart.2
  | closedAtOnce reason early =>
    rw [listens] at early
    exact absurd early (by decide)
  | asked reason alive => exact ⟨rfl,nofun,nofun⟩
  | endsAlready reason late => exact ⟨rfl,nofun,nofun⟩

/-- A view that is asked to end is told nothing more. -/
theorem late_turn (turn : Turn b input posted after) (late : .tearingDown ≤ b.phase) :
    posted.filterMap forView? = [] := by
  have other {p : Phase} (phase : b.phase = p) (early : p < .tearingDown) : False :=
    absurd (phase ▸ late) (not_le.mpr early)
  cases turn with
  | loaded message n said method waiting => exact (other waiting (by decide)).elim
  | listens message n said method waiting => exact (other waiting (by decide)).elim
  | told input n tells listens => exact (other listens (by decide)).elim
  | changed context listens => exact (other listens (by decide)).elim
  | _ => rfl

theorem ending_turn (turn : Turn b input posted after) (ends : input.isTeardown) :
    posted.filterMap forView? = [] ∧ .tearingDown ≤ after.phase := by
  cases turn with
  | closedAtOnce reason early => exact ⟨rfl,show Phase.tearingDown ≤ .closed by decide⟩
  | asked reason alive => exact ⟨rfl,le_rfl⟩
  | endsAlready reason late => exact ⟨rfl,late⟩
  | told input n tells listens => cases (of_tells tells).2.2.symm.trans ends
  | held input n tells early => cases (of_tells tells).2.2.symm.trans ends
  | dropped input n tells late => cases (of_tells tells).2.2.symm.trans ends
  | _ => cases ends

theorem reaches_ending (turn : Turn b input posted after) (goes : input.isTeardown = false)
    (late : .tearingDown ≤ after.phase) : .tearingDown ≤ b.phase := by
  cases turn with
  | introduced message r info result said method early shown =>
    exact absurd late (show ¬ Phase.tearingDown ≤ .initializing by decide)
  | loaded message n said method waiting =>
    exact absurd late (show ¬ Phase.tearingDown ≤ .loaded by decide)
  | listens message n said method waiting =>
    exact absurd late (show ¬ Phase.tearingDown ≤ .initialized by decide)
  | ended message r said waiting asked => exact waiting.ge
  | closedAtOnce reason early => cases goes
  | asked reason alive => cases goes
  | _ => exact late

variable {earlier : List Input} {inputs : List (Surroundings × Input)}

theorem tearingDown_le_iff (begun : Begun b earlier) :
    .tearingDown ≤ (b.final inputs).phase ↔ ∃ t ∈ b.trace inputs, t.input.isTeardown := by
  constructor
  · intro late
    induction inputs using List.reverseRecOn with
    | nil =>
      rw [show b.final [] = b from rfl,begun.phase] at late
      exact absurd late (by decide)
    | append_singleton first last ih =>
      rw [final_concat] at late
      rw [trace_concat]
      let m : Moment := ⟨b.final first,last.1,last.2⟩
      cases ends : last.2.isTeardown with
      | true => exact ⟨m,List.mem_append_right _ (List.mem_singleton_self _),ends⟩
      | false =>
        obtain ⟨t,member,ends⟩ := ih (reaches_ending m.turn ends late)
        exact ⟨t,List.mem_append_left _ member,ends⟩
  · rintro ⟨t,member,ends⟩
    exact (ending_turn t.turn ends).2.trans (after_le_final member)

theorem lt_initialized (begun : Begun b earlier) (shut : ∀ t ∈ b.trace inputs, ¬ t.Opens)
    (goes : ∀ t ∈ b.trace inputs, t.input.isTeardown = false) :
    (b.final inputs).phase < .initialized := by
  induction inputs using List.reverseRecOn with
  | nil => exact begun.phase ▸ (by decide : Phase.awaitingProxy < .initialized)
  | append_singleton first last ih =>
    rw [trace_concat] at shut goes
    rw [final_concat]
    let m : Moment := ⟨b.final first,last.1,last.2⟩
    have here : m ∈ b.trace first ++ [m] := List.mem_append_right _ (List.mem_singleton_self _)
    have early := ih (fun t member => shut t (List.mem_append_left _ member))
      (fun t member => goes t (List.mem_append_left _ member))
    exact ((early_turn m.turn early (shut m here)).2 (goes m here)).1

theorem opens_of_initialized (begun : Begun b earlier)
    (listens : (b.final inputs).phase = .initialized) : ∃ t ∈ b.trace inputs, t.Opens := by
  by_contra shut
  push Not at shut
  have goes (t : Moment) (member : t ∈ b.trace inputs) : t.input.isTeardown = false := by
    by_contra ends
    have late := (tearingDown_le_iff begun).mpr ⟨t,member,Bool.eq_true_of_not_eq_false ends⟩
    rw [listens] at late
    exact absurd late (by decide)
  exact absurd (lt_initialized begun shut goes) (listens ▸ lt_irrefl _)

theorem initialized_of_opens (begun : Begun b earlier) (opens : ∃ t ∈ b.trace inputs, t.Opens)
    (goes : ∀ t ∈ b.trace inputs, t.input.isTeardown = false) :
    (b.final inputs).phase = .initialized := by
  obtain ⟨t,member,opens⟩ := opens
  have reached := after_le_final member
  rw [(opens_turn t.turn opens).2] at reached
  have alive : ¬ .tearingDown ≤ (b.final inputs).phase := by
    intro late
    obtain ⟨u,inside,ends⟩ := (tearingDown_le_iff begun).mp late
    rw [goes u inside] at ends
    cases ends
  generalize (b.final inputs).phase = p at reached alive
  cases p <;> first | rfl | exact absurd reached (by decide) | exact absurd (by decide) alive

theorem latest_of_kept {ns : List Rpc.Notification}
    (kept : ∀ n ∈ ns, isContextChange n = false) : latest ns = ns := by
  induction ns with
  | nil => rfl
  | cons n ns ih =>
    rw [latest,if_neg (by simp [kept n List.mem_cons_self]),
      ih fun other member => kept other (List.mem_cons_of_mem _ member)]

/-- As long as the view does not listen, the queue is what the history would hold back. -/
theorem pending_eq_latest (begun : Begun b earlier)
    (early : (b.final inputs).phase < .initialized) :
    (b.final inputs).pending =
      latest (earlier.filterMap Input.tells? ++ (b.trace inputs).filterMap Moment.queued?) := by
  induction inputs using List.reverseRecOn with
  | nil =>
    obtain ⟨config,plan,rfl⟩ := begun.eq_start
    simp only [final,trace,List.filterMap_nil,List.append_nil]
    refine (latest_of_kept fun n member => ?_).symm
    obtain ⟨input,-,tells⟩ := List.mem_filterMap.mp member
    exact kept_of_tells tells
  | append_singleton first last ih =>
    rw [final_concat] at early ⊢
    let m : Moment := ⟨b.final first,last.1,last.2⟩
    -- Phases only move on, so a run that is still early has taken early turns alone.
    have before : m.before.phase < .initialized := (turn_phase m.turn).trans_lt early
    have shut : ¬ m.Opens := fun opens => absurd early ((opens_turn m.turn opens).2 ▸ lt_irrefl _)
    have goes : m.input.isTeardown = false := by
      by_contra ends
      have late := (ending_turn m.turn (Bool.eq_true_of_not_eq_false ends)).2
      exact absurd (early.trans_le (le_trans (by decide) late)) (lt_irrefl _)
    have pending := ((early_turn m.turn before shut).2 goes).2
    rw [trace_concat,List.filterMap_append,← List.append_assoc]
    change m.after.pending = latest (_ ++ [m].filterMap Moment.queued?)
    rw [pending,show m.before.pending = _ from ih before]
    change (m.queued?).elim _ _ = _
    cases held : m.queued? with
    | none => simp [held]
    | some n => rw [List.filterMap_cons_some held,List.filterMap_nil,latest_append]; rfl

theorem heldBack_eq (begun : Begun b earlier) (early : (b.final inputs).phase < .initialized) :
    inOrder (b.final inputs).pending = heldBack earlier (b.trace inputs) := by
  rw [pending_eq_latest begun early,inOrder_latest]
  rfl

theorem filter_tool_wants (input : Input) :
    input.wants?.toList.filter isToolNews = input.tells?.toList := by
  cases wants : input.tells? with
  | none =>
    cases input with
    | hostContext context => rfl
    | message message => rfl
    | teardown reason => rfl
    | _ => cases wants
  | some n =>
    rw [(of_tells wants).1]
    simp [isToolNews_of_tells wants]

theorem delivered_late (late : .tearingDown ≤ b.phase) :
    (b.trace inputs).flatMap Moment.delivered = [] := by
  induction inputs generalizing b with
  | nil => rfl
  | cons first rest ih =>
    let m : Moment := ⟨b,first.1,first.2⟩
    have tail := ih (late.trans (turn_phase m.turn))
    change m.delivered ++ (m.after.trace rest).flatMap Moment.delivered = []
    rw [show m.delivered = [] from late_turn m.turn late,List.nil_append]
    exact tail

/-- From a view that listens on, the news of its tool are delivered as they are told, until it is
asked to end. -/
theorem delivered_from_open (listens : b.phase = .initialized) :
    ((b.trace inputs).flatMap Moment.delivered).filter isToolNews =
      ((inputs.map (·.2)).takeWhile (!·.isTeardown)).filterMap Input.tells? := by
  induction inputs generalizing b with
  | nil => rfl
  | cons first rest ih =>
    let m : Moment := ⟨b,first.1,first.2⟩
    obtain ⟨delivered,-,stays⟩ := open_turn m.turn listens
    change (m.delivered ++ (m.after.trace rest).flatMap Moment.delivered).filter isToolNews = _
    rw [List.filter_append,show m.delivered = _ from delivered,filter_tool_wants]
    rw [List.map_cons]
    change _ = (List.takeWhile _ (m.input :: _)).filterMap _
    cases ends : m.input.isTeardown with
    | true =>
      rw [delivered_late (ending_turn m.turn ends).2,List.takeWhile_cons_of_neg (by simp [ends])]
      cases tells : m.input.tells? with
      | none => rfl
      | some n => cases (of_tells tells).2.2.symm.trans ends
    | false =>
      rw [List.takeWhile_cons_of_pos (by simp [ends]),ih (stays ends)]
      cases tells : m.input.tells? with
      | none => rw [List.filterMap_cons_none tells]; rfl
      | some n => rw [List.filterMap_cons_some tells]; rfl

theorem queued_filter_tool (past : List Moment) :
    (past.filterMap Moment.queued?).filter isToolNews =
      (past.map Moment.input).filterMap Input.tells? := by
  induction past with
  | nil => rfl
  | cons m past ih =>
    rw [List.map_cons]
    cases tells : m.input.tells? with
    | some n =>
      have queued : m.queued? = some n := (of_tells tells).2.1 m.before.phase
      rw [List.filterMap_cons_some queued,List.filterMap_cons_some tells,
        List.filter_cons_of_pos (isToolNews_of_tells tells),ih]
    | none =>
      rw [List.filterMap_cons_none tells,← ih]
      cases queued : m.queued? with
      | none => rw [List.filterMap_cons_none queued]
      | some n =>
        rw [List.filterMap_cons_some queued,List.filter_cons_of_neg]
        unfold Moment.queued? Input.queued? at queued
        split at queued
        · split at queued
          · cases queued
            simp [isToolNews,contextChanged,Rpc.Notification.of]
            decide
          · cases queued
        · cases tells.symm.trans queued

/-- The news of the tool among what was held back are those that were told. -/
theorem heldBack_tool_perm (earlier : List Input) (past : List Moment) :
    ((heldBack earlier past).filter isToolNews).Perm
      ((earlier ++ past.map Moment.input).filterMap Input.tells?) := by
  have apart (n : Rpc.Notification) (change : isContextChange n) : isToolNews n = false := by
    have method : n.method = Method.contextChanged := beq_iff_eq.mp change
    rw [isToolNews,method]
    decide
  have told : (earlier.filterMap Input.tells?).filter isToolNews =
      earlier.filterMap Input.tells? := by
    rw [List.filter_eq_self]
    intro n member
    obtain ⟨input,-,tells⟩ := List.mem_filterMap.mp member
    exact isToolNews_of_tells tells
  rw [heldBack,List.filter_append,latest_filter apart,← List.filter_append,List.filterMap_append,
    ← queued_filter_tool,← told,← List.filter_append,told]
  exact (List.filter_append_perm isToolInput _).filter _

theorem delivered_before_open {m : Moment} {first : List (Surroundings × Input)}
    (introduced : (b.final first).phase = .initializing) (member : m ∈ b.trace first) :
    m.delivered = [] ∧ m.input.isTeardown = false ∧ ¬ m.Opens := by
  have reached := after_le_final member
  rw [introduced] at reached
  have shut : ¬ m.Opens := by
    intro opens
    rw [(opens_turn m.turn opens).2] at reached
    exact absurd reached (by decide)
  have early : m.before.phase < .initialized :=
    ((turn_phase m.turn).trans reached).trans_lt (by decide)
  refine ⟨(early_turn m.turn early shut).1,?_,shut⟩
  by_contra ends
  have late := (ending_turn m.turn (Bool.eq_true_of_not_eq_false ends)).2
  exact absurd (late.trans reached) (by decide)

/-- The news of the tool that a run delivers once the view has come to listen are those that were
told before the view was asked to end, each once. -/
theorem delivered_perm {m : Moment} (begun : Begun b earlier) (member : m ∈ b.trace inputs)
    (opens : m.Opens) :
    (((b.trace inputs).flatMap Moment.delivered).filter isToolNews).Perm
      ((earlier ++ (inputs.map (·.2)).takeWhile (!·.isTeardown)).filterMap Input.tells?) := by
  obtain ⟨past,future,split⟩ := List.append_of_mem member
  obtain ⟨first,rest,rfl,rfl,reached,rfl⟩ := trace_split split
  have introduced : (b.final first).phase = .initializing := reached ▸ opens.1
  obtain ⟨posted,listens⟩ := opens_turn m.turn opens
  have before : (b.trace first).flatMap Moment.delivered = [] := by
    rw [List.flatMap_eq_nil_iff]
    exact fun t inside => (delivered_before_open introduced inside).1
  have here : m.delivered = heldBack earlier (b.trace first) := by
    have settled := final_settled begun.settled first
    rw [← heldBack_eq begun (by rw [introduced]; decide),← reached,Moment.delivered,posted]
    refine delivered_notifications fun n inside => ?_
    rw [← reached] at settled
    exact settled.queued n (mem_inOrder.mp inside)
  have goes : ∀ input ∈ first.map (·.2), (!input.isTeardown) = true := by
    intro input inside
    rw [← trace_inputs b] at inside
    obtain ⟨t,present,rfl⟩ := List.mem_map.mp inside
    rw [(delivered_before_open introduced present).2.1]
    rfl
  have quiet : m.input.tells? = none ∧ m.input.isTeardown = false := by
    obtain ⟨-,n,heard,-⟩ := opens
    cases input : m.input <;> rw [input] at heard <;> first | exact ⟨rfl,rfl⟩ | cases heard
  rw [split,List.flatMap_append,List.flatMap_cons,before,List.nil_append,here,List.filter_append,
    delivered_from_open listens,List.map_append,List.map_cons,List.takeWhile_append_of_pos goes,
    List.takeWhile_cons_of_pos (by simp [quiet.2]),← List.append_assoc,List.filterMap_append,
    List.filterMap_cons_none quiet.1,← trace_inputs b first]
  exact (heldBack_tool_perm earlier _).append_right _

/-- Delivery over whole runs. What a place in a run delivers follows from what came before it:
nothing until the view says that it listens; then exactly what was held back, in its order; after
that exactly what the host wants to tell the view, at once; and nothing from the moment on in which
the view is asked to end. So in a run in which the view comes to listen, the news of its tool are
delivered as often as they were told before it was asked to end. -/
theorem delivery {b : Bridge} {earlier : List Input} (begun : Begun b earlier)
    (inputs : List (Surroundings × Input)) :
    (∀ past m future, b.trace inputs = past ++ m :: future →
      ((∀ t ∈ past ++ [m], ¬ t.Opens) → m.delivered = []) ∧
      (m.Opens → m.posted = (heldBack earlier past).map .notification) ∧
      ((∃ t ∈ past, t.Opens) → (∀ t ∈ past, t.input.isTeardown = false) →
        m.delivered = m.input.wants?.toList ∧
        ∀ n, m.input.wants? = some n → m.posted = [.notification n]) ∧
      ((∃ t ∈ past ++ [m], t.input.isTeardown) → m.delivered = [])) ∧
    ((∃ first rest, inputs = first ++ rest ∧ (b.final first).phase = .initialized) →
      (((b.trace inputs).flatMap Moment.delivered).filter isToolNews).Perm
        ((earlier ++ (inputs.map (·.2)).takeWhile (!·.isTeardown)).filterMap Input.tells?)) := by
  constructor
  · intro past m future split
    obtain ⟨first,rest,-,rfl,reached,-⟩ := trace_split split
    have ended (t : Moment) (member : t ∈ b.trace first ++ [m]) (ends : t.input.isTeardown) :
        m.delivered = [] := by
      rcases List.mem_append.mp member with earlier | here
      · have late := (tearingDown_le_iff begun).mpr ⟨t,earlier,ends⟩
        exact late_turn m.turn (reached ▸ late)
      · rw [List.mem_singleton.mp here] at ends
        exact (ending_turn m.turn ends).1
    refine ⟨?_,?_,?_,?_⟩
    · intro shut
      by_cases ends : ∃ t ∈ b.trace first, t.input.isTeardown
      · obtain ⟨t,member,ends⟩ := ends
        exact ended t (List.mem_append_left _ member) ends
      · push Not at ends
        have early := lt_initialized begun
          (fun t member => shut t (List.mem_append_left _ member))
          (fun t member => Bool.eq_false_iff.mpr (ends t member))
        have here := shut m (List.mem_append_right _ (List.mem_singleton_self _))
        exact (early_turn m.turn (reached ▸ early) here).1
    · intro opens
      have early : (b.final first).phase < .initialized := by
        rw [← reached,opens.1]
        decide
      rw [(opens_turn m.turn opens).1,reached,heldBack_eq begun early]
    · intro opened goes
      have listens := initialized_of_opens begun opened goes
      obtain ⟨delivered,posted,-⟩ := open_turn m.turn (reached ▸ listens)
      exact ⟨delivered,posted⟩
    · rintro ⟨t,member,ends⟩
      exact ended t member ends
  · rintro ⟨first,rest,rfl,listens⟩
    obtain ⟨t,member,opens⟩ := opens_of_initialized begun listens
    refine delivered_perm begun ?_ opens
    rw [trace_append]
    exact List.mem_append_left _ member

def Sample.renderer : Renderer :=
  { Renderer.of "sample" Sample.host.sandbox with toolInput := some (.bool true) }

def Sample.waiting : List (Surroundings × Input) :=
  introduction ++ [comes (.hostContext host.hostContext),comes (.toolResult (.success [])),
    comes (.hostContext { host.hostContext with theme := "dark" }),tells Method.initialized,
    comes (.toolCancelled none),comes (.teardown none),comes (.toolCancelled none)]

theorem delivery_sample : ∃ b, Begun b [.toolInput (.bool true)] ∧
    (b.final (Sample.waiting.take 6)).phase = .initialized ∧
    (((b.trace Sample.waiting).flatMap Moment.delivered).filter isToolNews).Perm
      ([Input.toolInput (.bool true),.toolResult (.success []),.toolCancelled none].filterMap
        Input.tells?) := by
  have begun : Begun _ [.toolInput (.bool true)] :=
    .rendered Sample.renderer Sample.plan Sample.host _ rfl
  refine ⟨_,begun,by decide +kernel,?_⟩
  exact (delivery begun Sample.waiting).2
    ⟨Sample.waiting.take 6,Sample.waiting.drop 6,rfl,by decide +kernel⟩

end ToolView.Bridge
