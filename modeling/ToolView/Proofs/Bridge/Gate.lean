import Mathlib
import ToolView.Proofs.Bridge.Tools

/-! Which calls of a view reach a tool. The list of tools that a bridge has taken is never taken
again, and a call gets through if the first tool of its name in that list is open to apps. A tool
that says who may call it is closed to views only where all that it says can be read: one word that
nobody knows opens the tool to everyone. -/

namespace ToolView

namespace Visibility

/-- A part of a declaration names a caller: by the name alone, or as the one key of an object with
nothing under it. -/
def Names (v : Visibility) (item : Json) : Prop :=
  item = .str v.name ∨ item = .obj [(v.name,.null)]

instance (v : Visibility) (item : Json) : Decidable (v.Names item) :=
  inferInstanceAs (Decidable (_ ∨ _))

private theorem named_eq_ok {text : String} {v : Visibility} :
    Decode.named names text = .ok v ↔ text = v.name := by
  by_cases model : text = "model"
  · subst model
    cases v <;> decide
  · by_cases app : text = "app"
    · subst app
      cases v <;> decide
    · have unknown : names.lookup text = none := by
        simp [names,List.lookup,beq_eq_false_iff_ne.mpr model,beq_eq_false_iff_ne.mpr app]
      rw [Decode.named,unknown]
      cases v <;> simp [name,model,app]

theorem decode_eq_ok {item : Json} {v : Visibility} : decode item = .ok v ↔ v.Names item := by
  cases item with
  | str text =>
    change Decode.named names text = _ ↔ _
    simp [named_eq_ok,Names]
  | obj members =>
    match members with
    | [] => exact ⟨nofun,by simp [Names]⟩
    | (key,content) :: [] =>
      change (Decode.named names key >>= fun w => Decode.unit content >>= fun _ => .ok w) = _ ↔ _
      have unit : Decode.unit content = .ok () ↔ content = .null := by
        cases content <;> first | exact ⟨fun _ => rfl,fun _ => rfl⟩ | exact ⟨nofun,nofun⟩
      have named (w : Visibility) : Decode.named names key = .ok w ↔ key = w.name := named_eq_ok
      cases read : Decode.named names key with
      | error e =>
        have other : key ≠ v.name := fun same => by simp [(named v).mpr same] at read
        simp [Names,other,bind,Except.bind]
      | ok w =>
        have keyed : key = w.name := (named w).mp read
        have same : w = v ↔ key = v.name := by
          rw [keyed]
          exact ⟨fun equal => by rw [equal],fun equal => by cases w <;> cases v <;> simp_all [name]⟩
        rw [Names,show (Json.obj [(key,content)] = .obj [(v.name,.null)]) ↔
          key = v.name ∧ content = .null by simp,← same,← unit]
        cases said : Decode.unit content with
        | error e => simp [bind,Except.bind]
        | ok _ => simp [bind,Except.bind]
    | first :: second :: rest => exact ⟨nofun,by simp [Names]⟩
  | null => exact ⟨nofun,by simp [Names]⟩
  | bool value => exact ⟨nofun,by simp [Names]⟩
  | num value => exact ⟨nofun,by simp [Names]⟩
  | arr items => exact ⟨nofun,by simp [Names]⟩

private theorem decode_items {items : List Json} {vs : List Visibility} :
    items.mapM decode = .ok vs ↔ List.Forall₂ (fun item v => v.Names item) items vs := by
  rw [mapM_eq_ok]
  simp only [decode_eq_ok]

private theorem unique_name {item : Json} {v w : Visibility} (first : v.Names item)
    (second : w.Names item) : v = w := by
  have read := decode_eq_ok.mpr first
  rw [decode_eq_ok.mpr second] at read
  exact (Except.ok.inj read).symm

private theorem mem_iff_named {items : List Json} {vs : List Visibility}
    (all : List.Forall₂ (fun item v => v.Names item) items vs) (v : Visibility) :
    v ∈ vs ↔ ∃ item ∈ items, v.Names item := by
  induction all with
  | nil => simp
  | @cons item w items vs names rest ih =>
    have here : v = w ↔ v.Names item :=
      ⟨fun same => same ▸ names,fun other => unique_name other names⟩
    rw [List.mem_cons,List.exists_mem_cons_iff,ih,here]

private theorem readable_of_all {items : List Json} {vs : List Visibility}
    (all : List.Forall₂ (fun item v => v.Names item) items vs) :
    ∀ item ∈ items, ∃ w : Visibility, w.Names item := by
  induction all with
  | nil => simp
  | cons names rest ih => exact List.forall_mem_cons.mpr ⟨⟨_,names⟩,ih⟩

private theorem all_of_readable {items : List Json}
    (readable : ∀ item ∈ items, ∃ w : Visibility, w.Names item) :
    ∃ vs, List.Forall₂ (fun item v => Visibility.Names v item) items vs := by
  induction items with
  | nil => exact ⟨[],.nil⟩
  | cons item items ih =>
    obtain ⟨⟨w,names⟩,rest⟩ := List.forall_mem_cons.mp readable
    obtain ⟨vs,all⟩ := ih rest
    exact ⟨w :: vs,.cons names all⟩

end Visibility

namespace Tool

def callers? (t : Tool) : Option Json :=
  t.meta?.bind (·.getPath? [ViewLink.viewKey,ViewLink.visibilityKey])

/-- A tool that lists its callers is open to those that it names, and to everyone as soon as one
part of the list names nobody. -/
theorem isVisibleTo_of_callers {t : Tool} {items : List Json} (listed : t.callers? = some (.arr items))
    (v : Visibility) :
    t.isVisibleTo v ↔ (∀ item ∈ items, ∃ w : Visibility, w.Names item) →
      ∃ item ∈ items, v.Names item := by
  have visible : t.visibility = ((items.mapM Visibility.decode).toOption).getD Visibility.everyone := by
    rw [visibility,show t.meta?.bind _ = _ from listed]
    rfl
  rw [isVisibleTo,List.contains_iff_mem,visible]
  cases read : items.mapM Visibility.decode with
  | error e =>
    have unread : ¬ ∀ item ∈ items, ∃ w : Visibility, w.Names item := by
      intro readable
      obtain ⟨vs,all⟩ := Visibility.all_of_readable readable
      rw [Visibility.decode_items.mpr all] at read
      cases read
    have everyone : v ∈ Visibility.everyone := by cases v <;> decide
    exact ⟨fun _ readable => absurd readable unread,fun _ => everyone⟩
  | ok vs =>
    have all := Visibility.decode_items.mp read
    change v ∈ vs ↔ _
    rw [Visibility.mem_iff_named all]
    exact ⟨fun named _ => named,fun opens => opens (Visibility.readable_of_all all)⟩

/-- A tool whose callers, as far as they can be read, are no apps is open to apps all the same
where its list holds anything but the model. -/
theorem isVisibleTo_app_of_unopened {t : Tool} {items : List Json}
    (listed : t.callers? = some (.arr items))
    (unopened : ∀ item ∈ items, ¬ Visibility.app.Names item) :
    t.isVisibleTo .app ↔ ∃ item ∈ items, ¬ Visibility.model.Names item := by
  have unnamed : ¬ ∃ item ∈ items, Visibility.app.Names item := by
    rintro ⟨item,member,names⟩
    exact unopened item member names
  rw [isVisibleTo_of_callers listed,imp_iff_not unnamed]
  push Not
  constructor
  · rintro ⟨item,member,unread⟩
    exact ⟨item,member,unread .model⟩
  · rintro ⟨item,member,other⟩
    refine ⟨item,member,fun w => ?_⟩
    cases w with
    | model => exact other
    | app => exact unopened item member

end Tool

namespace HostEvent

/-- Whether a tool was set off: the handlers were told to call it, or the client was. -/
def callsTool : HostEvent → Bool
  | .toolCall _ | .callTool _ => true
  | _ => false

end HostEvent

namespace Bridge

def notCallable (name : String) : Rpc.ErrorData :=
  .plain Rpc.ErrorData.invalidParams ("Tool " ++ name ++ " is not callable from apps")

theorem checkCallable_of_first {tools : List Tool} {name : String} {tool : Tool}
    (first : tools.find? (fun t => t.name == name) = some tool) :
    checkCallable tools name =
      if tool.isVisibleTo .app then .ok () else .error (notCallable name) := by
  rw [checkCallable,first]
  rfl

private theorem code_of_unread {α : Type} {decode : Json → Except DecodeError α}
    {value : Option Json} {e : Rpc.ErrorData} (unread : params decode value = .error e) :
    e.code = Rpc.ErrorData.invalidParams := by
  unfold params at unread
  cases decoded : decode (value.getD .null) with
  | ok given => rw [decoded] at unread; cases unread
  | error cause => rw [decoded] at unread; cases unread; rfl

namespace Moment

def toolCalls (m : Moment) : List HostEvent := m.output.events.filter HostEvent.callsTool

/-- A request is kept from every tool, and the view is told that its parameters are wrong. -/
def Refuses (m : Moment) (r : Rpc.Request) : Prop :=
  m.toolCalls = [] ∧ ∃ e : Rpc.ErrorData, e.code = Rpc.ErrorData.invalidParams ∧
    m.output.messages = .ok [.response (.failure r.id e)]

variable {m : Moment} {r : Rpc.Request} {call : ToolCall} {tools : List Tool}

private theorem request?_of_said (said : m.input.said? = some (.request r))
    (alive : m.before.phase ≠ .closed) : m.request? = some r := by
  rw [request?,if_neg alive,said]

private theorem toolCalls_of_closed (closed : m.before.phase = .closed) : m.toolCalls = [] := by
  have unasked : m.call? = none := by rw [call?,request?,if_pos closed]; rfl
  have silent := (quiet unasked).1
  rw [toolCalls,List.filter_eq_nil_iff]
  intro e member calls
  cases e with
  | toolCall call => exact List.any_eq_false.mp silent _ member rfl
  | callTool call => exact List.any_eq_false.mp silent _ member rfl
  | _ => cases calls

private theorem filter_listing (known : Option (List Tool)) :
    (listing known).filter HostEvent.callsTool = [] := by
  rw [List.filter_eq_nil_iff]
  intro e member
  rw [mem_listing e member]
  exact nofun

theorem toolCalls_of_untaken (said : m.input.said? = some (.request r))
    (alive : m.before.phase ≠ .closed) (method : r.method = Method.callTool)
    (read : params ToolCall.decode r.params = .ok call) (untaken : m.after.tools = none) :
    m.toolCalls = [] := by
  have shut : ¬ ∃ tools, m.after.tools = some tools ∧ OpenTo tools call.name := by
    rintro ⟨tools,given,-⟩
    rw [untaken] at given
    cases given
  rw [toolCalls,(output_shut (request?_of_said said alive) method read shut).1,filter_listing]

/-- The call of a tool that the bridge finds closed is refused. -/
theorem refuses_of_shut (said : m.input.said? = some (.request r))
    (alive : m.before.phase ≠ .closed) (method : r.method = Method.callTool)
    (read : params ToolCall.decode r.params = .ok call) (taken : m.after.tools = some tools)
    {e : Rpc.ErrorData} (shut : checkCallable tools call.name = .error e)
    (code : e.code = Rpc.ErrorData.invalidParams) : m.Refuses r := by
  obtain ⟨answered,called,output⟩ := output_call (request?_of_said said alive) method read
  rw [after,output] at taken
  rw [Refuses,toolCalls,output]
  cases called with
  | unlisted other unknown fails => rw [unknown] at taken; cases taken
  | refused given other known closed =>
    cases taken
    rw [shut] at closed
    cases closed
    exact ⟨filter_listing _,e,code,rfl⟩
  | passed given known opened =>
    cases taken
    rw [shut] at opened
    cases opened

/-- The call of a tool that the bridge finds open is made. -/
theorem calls_of_opened (said : m.input.said? = some (.request r))
    (alive : m.before.phase ≠ .closed) (method : r.method = Method.callTool)
    (read : params ToolCall.decode r.params = .ok call) (taken : m.after.tools = some tools)
    (opened : checkCallable tools call.name = .ok ()) : .toolCall call ∈ m.output.events := by
  have calls := call?_eq_some.mpr ⟨r,request?_of_said said alive,method,read⟩
  rw [events_opened calls taken (checkCallable_eq_ok.mp opened)]
  exact List.mem_append_right _ (Surroundings.toolCall_told.mpr rfl)

theorem not_refuses_of_calls (calls : .toolCall call ∈ m.output.events) : ¬ m.Refuses r := by
  rintro ⟨none,-⟩
  have member : HostEvent.toolCall call ∈ m.toolCalls := List.mem_filter.mpr ⟨calls,rfl⟩
  rw [none] at member
  cases member

theorem refuses_of_unread (said : m.input.said? = some (.request r))
    (alive : m.before.phase ≠ .closed) (method : r.method = Method.callTool)
    (unread : ¬ ∃ call, params ToolCall.decode r.params = .ok call) : m.Refuses r := by
  cases read : params ToolCall.decode r.params with
  | ok call => exact absurd ⟨call,read⟩ unread
  | error e =>
    rw [Refuses,toolCalls,output_unread (request?_of_said said alive) method read]
    exact ⟨rfl,e,code_of_unread read,rfl⟩

/-- The list that a bridge has after an input is the one that it ends with. -/
theorem taken_eq {b : Bridge} {inputs : List (Surroundings × Input)} (member : m ∈ b.trace inputs)
    (held : (b.final inputs).tools = some tools) (taken : m.after.tools ≠ none) :
    m.after.tools = some tools := by
  obtain ⟨known,has⟩ := Option.ne_none_iff_exists'.mp taken
  obtain ⟨earlier,later,split,reached⟩ := mem_trace_split member
  have kept : (m.after.final later).tools = some known := by rw [final_tools,has]; rfl
  rw [split,final_append,← reached] at held
  rw [has,← kept]
  exact held

end Moment

/-- What becomes of the requests of a view to call a tool whose own list of callers does not name
apps. The bridge refuses all of them if the list names the model and nothing else; if anything else
stands in the list, it tells the handlers to make the call. Nothing is called while the bridge has
no list of tools, nor when it is closed. -/
theorem unopened_tool_refused_iff {b : Bridge} {inputs : List (Surroundings × Input)}
    {tools : List Tool} (held : (b.final inputs).tools = some tools) {name : String} {tool : Tool}
    (first : tools.find? (fun t => t.name == name) = some tool) {items : List Json}
    (listed : tool.callers? = some (.arr items))
    (unopened : ∀ item ∈ items, ¬ Visibility.app.Names item) {m : Moment}
    (member : m ∈ b.trace inputs) {r : Rpc.Request} (said : m.input.said? = some (.request r))
    (method : r.method = Method.callTool)
    (named : ∀ call, params ToolCall.decode r.params = .ok call → call.name = name) :
    (m.before.phase = .closed ∨ m.after.tools = none → m.toolCalls = []) ∧
    (m.before.phase ≠ .closed → m.after.tools ≠ none →
      (m.Refuses r ↔ (∃ call, params ToolCall.decode r.params = .ok call) →
        ∀ item ∈ items, Visibility.model.Names item) ∧
      ∀ call, params ToolCall.decode r.params = .ok call →
        (∃ item ∈ items, ¬ Visibility.model.Names item) → .toolCall call ∈ m.output.events) := by
  have opens := Tool.isVisibleTo_app_of_unopened listed unopened
  have calls (alive : m.before.phase ≠ .closed) (taken : m.after.tools ≠ none) (call : ToolCall)
      (read : params ToolCall.decode r.params = .ok call)
      (other : ∃ item ∈ items, ¬ Visibility.model.Names item) :
      .toolCall call ∈ m.output.events := by
    apply Moment.calls_of_opened said alive method read (Moment.taken_eq member held taken)
    rw [named call read,checkCallable_of_first first,if_pos (opens.mpr other)]
  refine ⟨?_,fun alive taken => ⟨⟨?_,?_⟩,calls alive taken⟩⟩
  · intro away
    by_cases closed : m.before.phase = .closed
    · exact Moment.toolCalls_of_closed closed
    · by_cases readable : ∃ call, params ToolCall.decode r.params = .ok call
      · obtain ⟨call,read⟩ := readable
        exact Moment.toolCalls_of_untaken said closed method read (away.resolve_left closed)
      · exact (Moment.refuses_of_unread said closed method readable).1
  · rintro refuses ⟨call,read⟩
    by_contra other
    push Not at other
    exact Moment.not_refuses_of_calls (calls alive taken call read other) refuses
  · intro model
    by_cases readable : ∃ call, params ToolCall.decode r.params = .ok call
    · obtain ⟨call,read⟩ := readable
      have shut : ¬ tool.isVisibleTo .app := by
        rw [opens]
        rintro ⟨item,inside,other⟩
        exact other (model ⟨call,read⟩ item inside)
      refine Moment.refuses_of_shut said alive method read (Moment.taken_eq member held taken) ?_
        (e := notCallable name) rfl
      rw [named call read,checkCallable_of_first first,if_neg shut]
    · exact Moment.refuses_of_unread said alive method readable

namespace Sample

def purge (callers : List Json) : Tool :=
  { Tool.of "purge" "Purge" Tool.emptySchema with
    meta? := some (.ofList [("ui",.ofObject (.ofList [("visibility",.arr callers)]))]) }

def serving (callers : List Json) : Surroundings where
  client :=
    { listTools := .ok [purge callers]
      callTool := fun _ => .ok (.success [.ofText "purged"])
      readResource := fun uri => .error (.invalidResource uri) }
  handlers := .default

def purging (callers : List Json) : List (Surroundings × Input) :=
  introduction ++ [tells Method.initialized] ++
    [(serving callers,.message (calls "purge").encode)]

def purgeCall (callers : List Json) : Moment :=
  ⟨listening,serving callers,.message (calls "purge").encode⟩

theorem purgeCall_mem (callers : List Json) :
    purgeCall callers ∈ (start host plan).trace (purging callers) := by
  rw [purging,trace_concat]
  exact List.mem_append_right _ (List.mem_singleton_self _)

end Sample

/-- A tool for the model alone is kept from a view, also where the model is named twice and in two
ways. -/
theorem unopened_tool_refused_model :
    let callers := [Json.obj [("model",.null)],.str "model"]
    (Sample.purge callers).callers? = some (.arr callers) ∧
      (∀ item ∈ callers, ¬ Visibility.app.Names item) ∧
      Sample.purgeCall callers ∈ (start Sample.host Sample.plan).trace (Sample.purging callers) ∧
      (Sample.purgeCall callers).Refuses (Sample.calls "purge") := by
  intro callers
  have held : ((start Sample.host Sample.plan).final (Sample.purging callers)).tools =
      some [Sample.purge callers] := by decide +kernel
  have listed : (Sample.purge callers).callers? = some (.arr callers) := by decide +kernel
  have unopened : ∀ item ∈ callers, ¬ Visibility.app.Names item := by decide
  have member := Sample.purgeCall_mem callers
  have said : (Sample.purgeCall callers).input.said? = some (.request (Sample.calls "purge")) := rfl
  have named (call : ToolCall)
      (read : params ToolCall.decode (Sample.calls "purge").params = .ok call) :
      call.name = "purge" := by
    cases read
    rfl
  have gate := unopened_tool_refused_iff held rfl listed unopened member said rfl named
  have alive : (Sample.purgeCall callers).before.phase ≠ .closed := by decide +kernel
  have taken : (Sample.purgeCall callers).after.tools ≠ none := by decide +kernel
  have model : ∀ item ∈ callers, Visibility.model.Names item := by decide
  exact ⟨listed,unopened,member,(gate.2 alive taken).1.mpr fun _ => model⟩

/-- A tool for the model and somebody unknown is called by a view. -/
theorem unopened_tool_called :
    let callers := [Json.str "model",.str "agent"]
    let call : ToolCall := ⟨"purge",some .empty⟩
    ((start Sample.host Sample.plan).final (Sample.purging callers)).tools =
        some [Sample.purge callers] ∧
      (Sample.purge callers).callers? = some (.arr callers) ∧
      (∀ item ∈ callers, ¬ Visibility.app.Names item) ∧
      Sample.purgeCall callers ∈ (start Sample.host Sample.plan).trace (Sample.purging callers) ∧
      (Sample.purgeCall callers).input.said? = some (.request (Sample.calls "purge")) ∧
      params ToolCall.decode (Sample.calls "purge").params = .ok call ∧
      (Sample.purgeCall callers).output.events = [.listTools,.toolCall call,.callTool call] ∧
      (Sample.purgeCall callers).output.messages =
        .ok [.response (.success (.number 2) (ToolResult.success [.ofText "purged"]).encode)] := by
  intro callers call
  refine ⟨?_,?_,?_,Sample.purgeCall_mem callers,rfl,rfl,?_,?_⟩
  · decide +kernel
  · decide +kernel
  · decide
  · decide +kernel
  · decide +kernel

end Bridge

end ToolView
