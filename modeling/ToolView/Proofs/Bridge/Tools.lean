import Mathlib
import ToolView.Proofs.Parts
import ToolView.Proofs.Reach

/-! The tools of a run. The client is asked which tools there are until it answers once, and every
call of the view is judged by that first answer: the handlers are told of a call exactly if the
first tool of its name is open to apps, and what they are told is what the view has sent. -/

namespace ToolView

namespace HostEvent

def aboutTools : HostEvent → Bool
  | .listTools | .toolCall _ | .callTool _ => true
  | _ => false

/-- The methods of the requests that can bring a question; the other questions are not brought by
any. -/
def methods : HostEvent → List String
  | .openLink _ => [Bridge.Method.openLink]
  | .message _ => [Bridge.Method.message]
  | .displayMode _ => [Bridge.Method.requestDisplayMode]
  | .modelContext _ => [Bridge.Method.updateModelContext]
  | .listTools | .toolCall _ | .callTool _ => [Bridge.Method.callTool]
  | .readResource _ => [Bridge.Method.callTool,Bridge.Method.readResource]
  | .sizeChanged _ _ | .prompt _ | .intent _ _ | .notify _ | .requestData _ _ => []

theorem callTool_mem_methods {e : HostEvent} (forClient : e.isForClient) :
    Bridge.Method.callTool ∈ e.methods := by
  cases e <;> first | exact List.mem_cons_self | cases forClient

theorem methods_of_aboutTools {e : HostEvent} (about : e.aboutTools) :
    e.methods = [Bridge.Method.callTool] := by
  cases e <;> first | rfl | cases about

end HostEvent

/-- In a conversation with the client nobody but the client is asked. -/
theorem Conversation.run_isForClient {α : Type} (client : Client) (c : Conversation α) :
    ∀ e ∈ (c.run client).2, e.isForClient := by
  induction c with
  | done result => exact List.forall_mem_nil _
  | listTools next ih => exact List.forall_mem_cons.mpr ⟨rfl,ih client.listTools⟩
  | callTool call next ih => exact List.forall_mem_cons.mpr ⟨rfl,ih (client.callTool call)⟩
  | readResource uri next ih => exact List.forall_mem_cons.mpr ⟨rfl,ih (client.readResource uri)⟩

/-- Handlers that are told of a call are told of no other one. -/
theorem Surroundings.toolCall_told {s : Surroundings} {call other : ToolCall} :
    .toolCall other ∈ (s.toolCall call).2 ↔ other = call := by
  change HostEvent.toolCall other ∈ .toolCall call :: ((s.handlers.toolCall call).run s.client).2 ↔ _
  rw [List.mem_cons]
  constructor
  · rintro (same | member)
    · exact HostEvent.toolCall.inj same
    · cases Conversation.run_isForClient s.client _ _ member
  · rintro rfl
    exact .inl rfl

namespace Bridge

/-- A view may call a tool: the first one of that name is open to apps. -/
def OpenTo (tools : List Tool) (name : String) : Prop :=
  ∃ tool, tools.find? (fun t => t.name == name) = some tool ∧ Visibility.app ∈ tool.visibility

theorem mem_listing {known : Option (List Tool)} : ∀ e ∈ listing known, e = .listTools := by
  rw [listing]
  split_ifs
  · exact List.forall_mem_singleton.mpr rfl
  · exact List.forall_mem_nil _

theorem checkCallable_eq_ok {tools : List Tool} {name : String} :
    checkCallable tools name = .ok () ↔ OpenTo tools name := by
  rw [checkCallable,OpenTo]
  cases tools.find? fun t => t.name == name with
  | none =>
    constructor
    · intro ok
      cases ok
    · rintro ⟨tool,missing,-⟩
      cases missing
  | some tool =>
    have visible : tool.isVisibleTo .app = true ↔ .app ∈ tool.visibility := List.contains_iff_mem
    dsimp only
    split_ifs with opened
    · exact ⟨fun _ => ⟨tool,rfl,visible.mp opened⟩,fun _ => rfl⟩
    · constructor
      · intro ok
        cases ok
      · rintro ⟨other,same,member⟩
        cases same
        exact absurd (visible.mpr member) opened

namespace Called

variable {s : Surroundings} {b : Bridge} {call : ToolCall} {answered : Answered}

theorem tools (called : Called s b call answered) :
    answered.bridge.tools = b.tools.or s.client.listTools.toOption := by
  cases called with
  | unlisted e unknown fails => rw [unknown,fails]; rfl
  | refused tools e known shut => exact known.symm
  | passed tools known opened => exact known.symm

theorem listed (called : Called s b call answered) (unknown : b.tools = none) :
    .listTools ∈ answered.events := by
  have asked : .listTools ∈ listing b.tools := by rw [listing,if_pos unknown]; exact List.mem_cons_self
  cases called with
  | unlisted e unknown fails => exact asked
  | refused tools e known shut => exact asked
  | passed tools known opened => exact List.mem_append_left _ asked

end Called

theorem message_request (s : Surroundings) {b : Bridge} {message : Json} {r : Rpc.Request}
    (alive : b.phase ≠ .closed) (said : Rpc.Message.decode message = .ok (.request r)) :
    b.step s (.message message) = ⟨.ok [.response (responseTo r.id (b.request s r).reply)],
      (b.request s r).bridge,(b.request s r).events⟩ := by
  simp only [step,handleMessage,if_neg alive,said]
  cases (b.request s r).reply <;> rfl

theorem request_unread (s : Surroundings) (b : Bridge) {r : Rpc.Request} {e : Rpc.ErrorData}
    (method : r.method = Method.callTool) (unread : params ToolCall.decode r.params = .error e) :
    b.request s r = ⟨.error e,b,[]⟩ := by
  unfold request
  rw [method,if_neg (by decide),if_neg (by decide),if_neg (by decide),if_neg (by decide),
    if_neg (by decide),if_neg (by decide),if_pos rfl,unread]

private theorem introduce_tools (b : Bridge) (p : InitializeParams) :
    (b.introduce p).2.tools = b.tools := by
  unfold introduce
  split <;> rfl

/-- A request that calls no tool leaves the list of them as it is. -/
private theorem request_tools (s : Surroundings) (b : Bridge) {r : Rpc.Request}
    (other : r.method ≠ Method.callTool) : (b.request s r).bridge.tools = b.tools := by
  unfold request
  split_ifs
  · split
    · rfl
    · exact introduce_tools b _
  · rfl
  · split <;> rfl
  · split <;> rfl
  · split <;> rfl
  · split <;> rfl
  · split <;> rfl
  · rfl

private theorem callTool_methods {s : Surroundings} {b : Bridge} {call : ToolCall} :
    ∀ e ∈ (b.callTool s call).events, Method.callTool ∈ e.methods := by
  have called := callTool_called s b call
  generalize b.callTool s call = answered at called
  have listed : ∀ e ∈ listing b.tools, Method.callTool ∈ e.methods := by
    intro e member
    rw [mem_listing e member]
    exact List.mem_cons_self
  cases called with
  | unlisted e unknown fails => exact listed
  | refused tools e known shut => exact listed
  | passed tools known opened =>
    refine List.forall_mem_append.mpr ⟨listed,List.forall_mem_cons.mpr ⟨List.mem_cons_self,?_⟩⟩
    intro e member
    exact HostEvent.callTool_mem_methods (Conversation.run_isForClient s.client _ e member)

/-- A request asks what its method is there for, and nothing else. -/
theorem request_methods (s : Surroundings) (b : Bridge) (r : Rpc.Request) :
    ∀ e ∈ (b.request s r).events, r.method ∈ e.methods := by
  have none : ∀ e ∈ ([] : List HostEvent), r.method ∈ e.methods := List.forall_mem_nil _
  have one {event : HostEvent} {methods : List String} (asks : event.methods = methods)
      (member : r.method ∈ methods) : ∀ e ∈ [event], r.method ∈ e.methods :=
    List.forall_mem_singleton.mpr (asks ▸ member)
  unfold request
  split_ifs with handshake ping link message display model call read
  · split <;> exact none
  · exact none
  · split
    · exact none
    · exact one rfl (link ▸ List.mem_cons_self)
  · split
    · exact none
    · exact one rfl (message ▸ List.mem_cons_self)
  · split
    · exact none
    · dsimp only [grantMode]
      split_ifs
      · exact one rfl (display ▸ List.mem_cons_self)
      · exact none
  · split
    · exact none
    · exact one rfl (model ▸ List.mem_cons_self)
  · split
    · exact none
    · exact call ▸ callTool_methods
  · split
    · exact none
    · exact one rfl (read ▸ List.mem_cons_of_mem _ List.mem_cons_self)
  · exact none

/-- A notification asks nothing, but it may tell of a size. -/
theorem notification_events (b : Bridge) (n : Rpc.Notification) :
    ∀ e ∈ (b.notification n).2.2, ∃ width height, e = .sizeChanged width height := by
  unfold notification
  split_ifs
  iterate 4
    · exact List.forall_mem_nil _
  · split
    · exact List.forall_mem_singleton.mpr ⟨_,_,rfl⟩
    · exact List.forall_mem_nil _
  · exact List.forall_mem_nil _

namespace Moment

/-- The request that an input brings; a closed bridge takes none. -/
def request? (m : Moment) : Option Rpc.Request :=
  if m.before.phase = .closed then none
  else match m.input.said? with
    | some (.request r) => some r
    | _ => none

def reads? {α : Type} (m : Moment) (method : String) (decode : Json → Except DecodeError α) :
    Option α :=
  m.request?.bind fun r => if r.method = method then (params decode r.params).toOption else none

def call? (m : Moment) : Option ToolCall :=
  m.request?.bind fun r =>
    if r.method = Method.callTool then (params ToolCall.decode r.params).toOption else none

def list? (m : Moment) : Option (List Tool) :=
  if .listTools ∈ m.output.events then m.surroundings.client.listTools.toOption else none

variable {m : Moment} {r : Rpc.Request} {call : ToolCall}

theorem request?_eq_some : m.request? = some r ↔ m.before.phase ≠ .closed ∧
    ∃ message, m.input = .message message ∧ Rpc.Message.decode message = .ok (.request r) := by
  obtain ⟨before,surroundings,input⟩ := m
  by_cases closed : before.phase = .closed
  · simp [request?,closed]
  · simp only [request?,if_neg closed]
    cases input with
    | message message =>
      cases said : Rpc.Message.decode message with
      | error e => simp [Input.said?,said,Except.toOption]
      | ok received => cases received <;> simp [Input.said?,said,Except.toOption,closed]
    | _ => simp [Input.said?]

theorem output_request (asks : m.request? = some r) : m.output =
    ⟨.ok [.response (responseTo r.id (m.before.request m.surroundings r).reply)],
      (m.before.request m.surroundings r).bridge,(m.before.request m.surroundings r).events⟩ := by
  obtain ⟨alive,message,comes,said⟩ := request?_eq_some.mp asks
  rw [output,comes]
  exact message_request m.surroundings alive said

theorem reads?_eq_some {α : Type} {method : String} {decode : Json → Except DecodeError α}
    {x : α} : m.reads? method decode = some x ↔ ∃ r, m.request? = some r ∧
      r.method = method ∧ params decode r.params = .ok x := by
  have option {read : Except Rpc.ErrorData α} : read.toOption = some x ↔ read = .ok x := by
    cases read <;> simp [Except.toOption]
  simp only [reads?,Option.bind_eq_some_iff,Option.ite_none_right_eq_some,option]

theorem call?_eq_some : m.call? = some call ↔ ∃ r, m.request? = some r ∧
    r.method = Method.callTool ∧ params ToolCall.decode r.params = .ok call :=
  reads?_eq_some

/-- What a request is read from is what the message carries; a reader that takes nothing for it is
not given nothing. -/
theorem carried {α : Type} {decode : Json → Except DecodeError α} {x : α}
    (asks : m.request? = some r) (read : params decode r.params = .ok x)
    (bare : decode .null ≠ .ok x) : ∃ message value, m.input = .message message ∧
      message.part? 3 "params" = some value ∧ decode value = .ok x := by
  obtain ⟨-,message,comes,said⟩ := request?_eq_some.mp asks
  have decodes : decode (r.params.getD .null) = .ok x := by
    rw [params] at read
    cases decoded : decode (r.params.getD .null) with
    | error e => rw [decoded] at read; cases read
    | ok other => rw [decoded] at read; cases read; rfl
  cases carries : r.params with
  | none => rw [carries] at decodes; exact absurd decodes bare
  | some value =>
    rw [carries] at decodes
    exact ⟨message,value,comes,
      Rpc.Request.params_of_decode (Rpc.Message.decode_eq_ok.mp said) carries,decodes⟩

theorem output_call (asks : m.request? = some r) (method : r.method = Method.callTool)
    (read : params ToolCall.decode r.params = .ok call) :
    ∃ answered, Called m.surroundings m.before call answered ∧
      m.output = ⟨.ok [.response (responseTo r.id answered.reply)],answered.bridge,
        answered.events⟩ := by
  refine ⟨_,callTool_called m.surroundings m.before call,?_⟩
  rw [output_request asks,request_callTool m.surroundings m.before method read]

theorem output_unread (asks : m.request? = some r) (method : r.method = Method.callTool)
    {e : Rpc.ErrorData} (unread : params ToolCall.decode r.params = .error e) :
    m.output = ⟨.ok [.response (.failure r.id e)],m.before,[]⟩ := by
  rw [output_request asks,request_unread m.surroundings m.before method unread]
  rfl

/-- Whatever is asked, a request asks for it. -/
theorem asked_for (m : Moment) : ∀ e ∈ m.output.events,
    (∃ r, m.request? = some r ∧ r.method ∈ e.methods) ∨
      ∃ width height, e = .sizeChanged width height := by
  obtain ⟨before,s,input⟩ := m
  cases input with
  | message message =>
    change ∀ e ∈ (before.handleMessage s message).events, _
    unfold handleMessage
    split_ifs with closed
    · exact List.forall_mem_nil _
    split
    next => exact List.forall_mem_nil _
    next r said =>
      intro e member
      have asks : (Moment.mk before s (.message message)).request? = some r :=
        request?_eq_some.mpr ⟨closed,message,rfl,said⟩
      exact .inl ⟨r,asks,request_methods s before r e member⟩
    next n said => exact fun e member => .inr (notification_events before n e member)
    iterate 3
      next => exact List.forall_mem_nil _
  | _ => exact List.forall_mem_nil _

private theorem tools_unasked (none : m.request? = none) : m.after.tools = m.before.tools := by
  obtain ⟨before,s,input⟩ := m
  have turn := (Moment.mk before s input).turn
  generalize (Moment.mk before s input).posted = posted at turn
  generalize (Moment.mk before s input).after = after at turn
  cases turn with
  | answered message r reply tools said opened id other =>
    rw [request?_eq_some.mpr ⟨opened,message,rfl,said⟩] at none
    cases none
  | _ => rfl

/-- Only a call asks about tools. -/
private theorem silent_uncalled (other : ∀ r, m.request? = some r → r.method ≠ Method.callTool) :
    m.output.events.any HostEvent.aboutTools = false := by
  refine List.any_eq_false.mpr fun e member about => ?_
  obtain ⟨r,asks,method⟩ | ⟨width,height,rfl⟩ := m.asked_for e member
  · rw [HostEvent.methods_of_aboutTools about] at method
    exact other r asks (List.mem_singleton.mp method)
  · cases about

/-- Only a call that can be read asks about tools or takes a list of them. -/
theorem quiet (none : m.call? = none) :
    m.output.events.any HostEvent.aboutTools = false ∧ m.after.tools = m.before.tools := by
  cases asks : m.request? with
  | none => exact ⟨silent_uncalled (by rw [asks]; exact nofun),tools_unasked asks⟩
  | some r =>
    by_cases method : r.method = Method.callTool
    · cases read : params ToolCall.decode r.params with
      | ok call => rw [call?_eq_some.mpr ⟨r,asks,method,read⟩] at none; cases none
      | error e =>
        rw [after,output_unread asks method read]
        exact ⟨rfl,rfl⟩
    · refine ⟨silent_uncalled fun other same => ?_,?_⟩
      · cases asks.symm.trans same
        exact method
      · rw [after,output_request asks]
        exact request_tools m.surroundings m.before method

/-- The tools that a bridge knows are those it knew, or those listed now. -/
theorem after_tools (m : Moment) : m.after.tools = m.before.tools.or m.list? := by
  cases call : m.call? with
  | none =>
    obtain ⟨silent,kept⟩ := quiet call
    have unasked : .listTools ∉ m.output.events := fun member =>
      List.any_eq_false.mp silent _ member rfl
    rw [kept,list?,if_neg unasked,Option.or_none]
  | some call =>
    obtain ⟨r,asks,method,read⟩ := call?_eq_some.mp call
    obtain ⟨answered,called,output⟩ := output_call asks method read
    rw [after,output,called.tools]
    cases known : m.before.tools with
    | some tools => rfl
    | none =>
      have asked : .listTools ∈ m.output.events := by
        rw [output]
        exact called.listed known
      rw [list?,if_pos asked]

end Moment

def firstList? (moments : List Moment) : Option (List Tool) := moments.findSome? Moment.list?

/-- What a bridge knows of the tools is the first list that the client gave. -/
theorem final_tools (b : Bridge) (inputs : List (Surroundings × Input)) :
    (b.final inputs).tools = b.tools.or (firstList? (b.trace inputs)) := by
  induction inputs generalizing b with
  | nil => exact Option.or_none.symm
  | cons first rest ih =>
    let m : Moment := ⟨b,first.1,first.2⟩
    have head : firstList? (m :: m.after.trace rest) =
        m.list?.or (firstList? (m.after.trace rest)) := by
      rw [firstList?,List.findSome?_cons,firstList?]
      cases m.list? <;> rfl
    change (m.after.final rest).tools = b.tools.or (firstList? (m :: m.after.trace rest))
    rw [ih,m.after_tools,head,Option.or_assoc]

theorem firstList?_concat (past : List Moment) (m : Moment) :
    firstList? (past ++ [m]) = (firstList? past).or m.list? := by
  rw [firstList?,List.findSome?_append,List.findSome?_singleton,firstList?]

theorem Begun.tools {b : Bridge} {earlier : List Input} (begun : Begun b earlier) :
    b.tools = none := by
  obtain ⟨config,plan,rfl⟩ := begun.eq_start
  rfl

/-- A call of the view gets through after a past: the list that the client has given first by the
end of the moment has a tool of its name, and the first such tool is open to apps. -/
def Passes (past : List Moment) (m : Moment) (call : ToolCall) : Prop :=
  m.call? = some call ∧ ∃ tools, firstList? (past ++ [m]) = some tools ∧ OpenTo tools call.name

/-- What a moment has to do with tools after a past. What the handlers ask the client once they
have been told of a call is theirs; it stands behind the call. -/
structure Gated (past : List Moment) (m : Moment) : Prop where
  told : ∀ call, .toolCall call ∈ m.output.events ↔ Passes past m call
  sent : ∀ call, m.call? = some call → ∃ message value, m.input = .message message ∧
    message.part? 3 "params" = some value ∧ value.part? 0 "name" = some (.str call.name) ∧
      call.arguments = (value.part? 1 "arguments").bind Json.object?
  passed : ∀ call, Passes past m call →
    m.output.events = listing (firstList? past) ++ (m.surroundings.toolCall call).2
  stopped : ∀ call, m.call? = some call → ¬ Passes past m call →
    m.output.events = listing (firstList? past)
  silent : m.call? = none → m.output.events.any HostEvent.aboutTools = false
  refused : ∀ r, m.request? = some r → r.method = Method.callTool →
    (∀ call, ¬ Passes past m call) → (∀ e ∈ m.output.events, e = .listTools) ∧
      ∃ e, m.output.messages = .ok [.response (.failure r.id e)]

namespace Moment

variable {m : Moment} {r : Rpc.Request} {call : ToolCall} {tools : List Tool}

theorem sent (calls : m.call? = some call) : ∃ message value, m.input = .message message ∧
    message.part? 3 "params" = some value ∧ value.part? 0 "name" = some (.str call.name) ∧
      call.arguments = (value.part? 1 "arguments").bind Json.object? := by
  obtain ⟨r,asks,-,read⟩ := call?_eq_some.mp calls
  obtain ⟨message,value,comes,carries,decodes⟩ := carried asks read nofun
  exact ⟨message,value,comes,carries,ToolCall.parts_of_decode decodes⟩

theorem events_opened (calls : m.call? = some call) (known : m.after.tools = some tools)
    (opened : OpenTo tools call.name) :
    m.output.events = listing m.before.tools ++ (m.surroundings.toolCall call).2 := by
  obtain ⟨r,asks,method,read⟩ := call?_eq_some.mp calls
  obtain ⟨answered,called,output⟩ := output_call asks method read
  rw [after,output] at known
  rw [output]
  cases called with
  | unlisted e unknown fails => rw [unknown] at known; cases known
  | refused given e _ shut =>
    cases known
    rw [checkCallable_eq_ok.mpr opened] at shut
    cases shut
  | passed given _ _ => rfl

theorem output_shut (asks : m.request? = some r) (method : r.method = Method.callTool)
    (read : params ToolCall.decode r.params = .ok call)
    (shut : ¬ ∃ tools, m.after.tools = some tools ∧ OpenTo tools call.name) :
    m.output.events = listing m.before.tools ∧
      ∃ e, m.output.messages = .ok [.response (.failure r.id e)] := by
  obtain ⟨answered,called,output⟩ := output_call asks method read
  rw [after,output] at shut
  rw [output]
  cases called with
  | unlisted e unknown fails => exact ⟨rfl,_,rfl⟩
  | refused given e known closed => exact ⟨rfl,_,rfl⟩
  | passed given known opened => exact absurd ⟨given,rfl,checkCallable_eq_ok.mp opened⟩ shut

end Moment

section gated

variable {past : List Moment} {m : Moment} {call : ToolCall}

/-- Calls are judged by what the bridge knows once it has asked, which is the first list. -/
private theorem after_judged (known : m.before.tools = firstList? past) :
    m.after.tools = firstList? (past ++ [m]) := by
  rw [firstList?_concat,← known,m.after_tools]

private theorem events_passed (known : m.before.tools = firstList? past)
    (passes : Passes past m call) :
    m.output.events = listing (firstList? past) ++ (m.surroundings.toolCall call).2 := by
  obtain ⟨calls,tools,given,opened⟩ := passes
  rw [← known]
  exact Moment.events_opened calls ((after_judged known).trans given) opened

private theorem output_stopped (known : m.before.tools = firstList? past) {r : Rpc.Request}
    (asks : m.request? = some r) (method : r.method = Method.callTool)
    (read : params ToolCall.decode r.params = .ok call) (stops : ¬ Passes past m call) :
    m.output.events = listing (firstList? past) ∧
      ∃ e, m.output.messages = .ok [.response (.failure r.id e)] := by
  rw [← known]
  refine Moment.output_shut asks method read ?_
  rintro ⟨tools,given,opened⟩
  have calls : m.call? = some call := Moment.call?_eq_some.mpr ⟨r,asks,method,read⟩
  exact stops ⟨calls,tools,(after_judged known).symm.trans given,opened⟩

private theorem events_stopped (known : m.before.tools = firstList? past)
    (calls : m.call? = some call) (stops : ¬ Passes past m call) :
    m.output.events = listing (firstList? past) := by
  obtain ⟨r,asks,method,read⟩ := Moment.call?_eq_some.mp calls
  exact (output_stopped known asks method read stops).1

private theorem told_iff_passes (known : m.before.tools = firstList? past) :
    .toolCall call ∈ m.output.events ↔ Passes past m call := by
  constructor
  · intro told
    cases calls : m.call? with
    | none => exact absurd rfl (List.any_eq_false.mp (Moment.quiet calls).1 _ told)
    | some other =>
      by_cases passes : Passes past m other
      · rw [events_passed known passes,List.mem_append,Surroundings.toolCall_told] at told
        obtain listed | rfl := told
        · cases mem_listing _ listed
        · exact passes
      · rw [events_stopped known calls passes] at told
        cases mem_listing _ told
  · intro passes
    rw [events_passed known passes]
    exact List.mem_append_right _ (Surroundings.toolCall_told.mpr rfl)

private theorem output_refused (known : m.before.tools = firstList? past) {r : Rpc.Request}
    (asks : m.request? = some r) (method : r.method = Method.callTool)
    (stops : ∀ call, ¬ Passes past m call) : (∀ e ∈ m.output.events, e = .listTools) ∧
      ∃ e, m.output.messages = .ok [.response (.failure r.id e)] := by
  cases read : params ToolCall.decode r.params with
  | error e =>
    rw [Moment.output_unread asks method read]
    exact ⟨List.forall_mem_nil _,e,rfl⟩
  | ok call =>
    obtain ⟨events,failed⟩ := output_stopped known asks method read (stops call)
    rw [events]
    exact ⟨mem_listing,failed⟩

/-- A bridge that knows the first list of the past, if there was one, deals with a moment by it. -/
theorem gated (known : m.before.tools = firstList? past) : Gated past m where
  told _ := told_iff_passes known
  sent _ := Moment.sent
  passed _ := events_passed known
  stopped _ := events_stopped known
  silent none := (Moment.quiet none).1
  refused _ := output_refused known

end gated

/-- What a view gets to call. In every run of a bridge, whatever the client answers and however it
changes its answers, calls are judged by the list of tools that it gave first: the handlers are told
of a call, as the view has sent it, exactly if the first tool of that name in the list is open to
apps. The client is asked for the list once by every call that can be read as long as it has given
none, and never else. -/
theorem tool_gate {b : Bridge} {earlier : List Input} (begun : Begun b earlier)
    {inputs : List (Surroundings × Input)} {past future : List Moment} {m : Moment}
    (split : b.trace inputs = past ++ m :: future) : Gated past m := by
  obtain ⟨first,rest,-,rfl,reached,-⟩ := trace_split split
  refine gated ?_
  rw [reached,final_tools,begun.tools,Option.none_or]

namespace Sample

def wipe : Tool := .of "wipe" "Wipe" Tool.emptySchema

def wiping : ToolCall := ⟨"wipe",some .empty⟩

def wipes (lists : Except HostError (List Tool)) : Surroundings × Input :=
  (⟨{ surroundings.client with listTools := lists },.default⟩,.message (calls "wipe").encode)

def wipedThrice : List (Surroundings × Input) :=
  [wipes (.error (.client "offline")),wipes (.ok [wipe]),wipes (.ok [])]

def lastWipe : Moment :=
  ⟨(start host plan).final (wipedThrice.take 2),(wipes (.ok [])).1,(wipes (.ok [])).2⟩

end Sample

/-- The last of three calls is judged by the list that the second one took: the handlers are told of
it, though the client does not list the tool any more and is not asked. -/
theorem tool_gate_sample :
    let b := start Sample.host Sample.plan
    let past := b.trace (Sample.wipedThrice.take 2)
    Begun b [] ∧ b.trace Sample.wipedThrice = past ++ Sample.lastWipe :: [] ∧
      firstList? past = some [Sample.wipe] ∧
      Sample.lastWipe.surroundings.client.listTools = .ok [] ∧
      Sample.lastWipe.output.events = [.toolCall Sample.wiping,.callTool Sample.wiping] := by
  intro b past
  have begun : Begun b [] := .new _ _
  have split : b.trace Sample.wipedThrice = past ++ Sample.lastWipe :: [] := rfl
  have given : firstList? past = some [Sample.wipe] := by decide +kernel
  have judged : firstList? (past ++ [Sample.lastWipe]) = some [Sample.wipe] := by
    rw [firstList?_concat,given]
    rfl
  have opened : OpenTo [Sample.wipe] Sample.wiping.name :=
    checkCallable_eq_ok.mp (by decide +kernel)
  have calls : Sample.lastWipe.call? = some Sample.wiping := by decide +kernel
  have events := (tool_gate begun split).passed Sample.wiping ⟨calls,_,judged,opened⟩
  rw [given] at events
  exact ⟨begun,split,given,rfl,events⟩

end Bridge

end ToolView
