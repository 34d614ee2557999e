import Mathlib
import ToolView.Host.Renderer

/-! All that one input can do to a bridge. The relation names every way a bridge can turn, with the
condition under which it turns that way, what it posts and what it is afterwards; every step of the
bridge is one of these turns. What holds along a run is read off the turns and not off the code. -/

namespace ToolView.Bridge

def Phase.stage : Phase → Nat
  | .awaitingProxy => 0
  | .proxyReady => 1
  | .loaded => 2
  | .initializing => 3
  | .initialized => 4
  | .tearingDown => 5
  | .closed => 6

theorem Phase.stage_injective : Function.Injective Phase.stage := by
  intro p q same
  cases p <;> cases q <;> first | rfl | cases same

instance : LinearOrder Phase := LinearOrder.lift' Phase.stage Phase.stage_injective

def Output.posted (o : Output) : List Rpc.Message :=
  match o.messages with
  | .ok messages => messages
  | .error _ => []

def Input.said? : Input → Option Rpc.Message
  | .message json => (Rpc.Message.decode json).toOption
  | _ => none

def Input.tells? : Input → Option Rpc.Notification
  | .toolInput arguments => some (.of Method.toolInput (some (ToolInputParams.mk arguments).encode))
  | .toolInputPartial arguments =>
    some (.of Method.toolInputPartial (some (ToolInputParams.mk arguments).encode))
  | .toolResult result =>
    some (.of Method.toolResult (some (ToolResultParams.mk
      (some (result.content.map Content.encode)) result.structuredContent result.isError?
      (result.meta?.map .ofObject)).encode))
  | .toolCancelled reason =>
    some (.of Method.toolCancelled (some (ToolCancelledParams.mk reason).encode))
  | .message _ | .hostContext _ | .teardown _ => none

def contextChanged (context : HostContext) : Rpc.Notification :=
  .of Method.contextChanged (some context.encode)

def isContextChange (n : Rpc.Notification) : Bool := n.method == Method.contextChanged

def isToolNews (n : Rpc.Notification) : Bool :=
  n.method ∈ [Method.toolInput, Method.toolInputPartial, Method.toolResult, Method.toolCancelled]

def isForView (n : Rpc.Notification) : Bool := isToolNews n || isContextChange n

theorem isToolNews_of_tells {input : Input} {n : Rpc.Notification}
    (tells : input.tells? = some n) : isToolNews n = true := by
  cases input <;> cases tells <;> simp [isToolNews,Rpc.Notification.of]

theorem isForView_of_tells {input : Input} {n : Rpc.Notification}
    (tells : input.tells? = some n) : isForView n := by
  rw [isForView,isToolNews_of_tells tells,Bool.true_or]

theorem said_of_tells {input : Input} {n : Rpc.Notification} (tells : input.tells? = some n) :
    input.said? = none := by
  cases input <;> first | rfl | cases tells

theorem said_message {message : Json} {m : Rpc.Message}
    (said : Rpc.Message.decode message = .ok m) : (Input.message message).said? = some m := by
  rw [Input.said?,said]
  rfl

theorem message_of_said {input : Input} {m : Rpc.Message} (said : input.said? = some m) :
    ∃ message, input = .message message ∧ Rpc.Message.decode message = .ok m := by
  cases input with
  | message message =>
    cases read : Rpc.Message.decode message with
    | error e => rw [Input.said?,read] at said; cases said
    | ok m' =>
      rw [said_message read] at said
      exact ⟨message,rfl,read.trans (congrArg _ (Option.some.inj said))⟩
  | _ => cases said

theorem isForView_contextChanged (context : HostContext) :
    isForView (contextChanged context) = true := by
  rfl

def inContext (b : Bridge) (context : HostContext) : Bridge :=
  { b with displayMode := context.displayMode.getD b.displayMode, hostContext := context }

def shownIn (b : Bridge) (mode : DisplayMode) : Bridge :=
  { b with
    displayMode := mode
    hostContext := { b.hostContext with displayMode := some mode } }

/-- The messages that a bridge lets pass: all of them once it is closed, and before that those that
come out of turn or ask for nothing. -/
def LetsPass (b : Bridge) : Option Rpc.Message → Prop
  | some (.request _) => b.phase = .closed
  | some (.notification n) => b.phase ≠ .closed →
    (n.method = Method.proxyReady → b.phase ≠ .awaitingProxy) ∧
      (n.method = Method.initialized → b.phase ≠ .initializing)
  | some (.response r) => ¬ (b.phase = .tearingDown ∧ b.teardownId = some r.id)
  | some (.failure _) | some .none | none => True

/-- The ways in which a bridge turns, each with what it posts and the bridge after it. -/
inductive Turn (b : Bridge) : Input → List Rpc.Message → Bridge → Prop
  | unheard (message) (passed : b.LetsPass (Input.message message).said?) :
      Turn b (.message message) [] b
  | answered (message r reply tools) (said : Rpc.Message.decode message = .ok (.request r))
      (opened : b.phase ≠ .closed) (id : reply.id = r.id)
      (other : r.method = Method.handshake ∨ r.method = Method.requestDisplayMode →
        reply.result = none) :
      Turn b (.message message) [.response reply] { b with tools := tools }
  | introduced (message r info) (result : InitializeResult)
      (said : Rpc.Message.decode message = .ok (.request r))
      (method : r.method = Method.handshake) (early : b.phase < .initializing)
      (shown : result.hostContext = some b.hostContext) :
      Turn b (.message message) [.response (.success r.id result.encode)]
        { b with
          appInfo := info, protocolVersion := some result.protocolVersion, phase := .initializing }
  | granted (message r mode) (said : Rpc.Message.decode message = .ok (.request r))
      (method : r.method = Method.requestDisplayMode) (opened : b.phase ≠ .closed) :
      Turn b (.message message)
        [.response (.success r.id (DisplayModeParams.mk mode).encode)] (b.shownIn mode)
  | loaded (message n) (said : Rpc.Message.decode message = .ok (.notification n))
      (method : n.method = Method.proxyReady) (waiting : b.phase = .awaitingProxy) :
      Turn b (.message message) [.notification b.resourceReady] { b with phase := .loaded }
  | listens (message n) (said : Rpc.Message.decode message = .ok (.notification n))
      (method : n.method = Method.initialized) (waiting : b.phase = .initializing) :
      Turn b (.message message) ((inOrder b.pending).map .notification)
        { b with phase := .initialized, pending := [] }
  | ended (message r) (said : Rpc.Message.decode message = .ok (.response r))
      (waiting : b.phase = .tearingDown) (asked : b.teardownId = some r.id) :
      Turn b (.message message) [] { b with teardownId := none, phase := .closed }
  | told (input n) (tells : input.tells? = some n) (listens : b.phase = .initialized) :
      Turn b input [.notification n] b
  | held (input n) (tells : input.tells? = some n) (early : b.phase < .initialized) :
      Turn b input [] { b with pending := b.pending ++ [n] }
  | dropped (input n) (tells : input.tells? = some n) (late : .tearingDown ≤ b.phase) :
      Turn b input [] b
  | changed (context) (listens : b.phase = .initialized) :
      Turn b (.hostContext context) [.notification (contextChanged context)] (b.inContext context)
  | changeHeld (context) (introduced : b.phase = .initializing) :
      Turn b (.hostContext context) []
        { b.inContext context with
          pending := b.pending.filter (!isContextChange ·) ++ [contextChanged context] }
  | changeKept (context) (apart : b.phase ≠ .initializing ∧ b.phase ≠ .initialized) :
      Turn b (.hostContext context) [] (b.inContext context)
  | closedAtOnce (reason) (early : b.phase < .initializing) :
      Turn b (.teardown reason) [] { b with pending := [], phase := .closed }
  | asked (reason) (alive : b.phase = .initializing ∨ b.phase = .initialized) :
      Turn b (.teardown reason)
        [.request (.of (.number b.nextId) Method.teardown
          (some (TeardownParams.mk reason).encode))]
        { b with
          nextId := b.nextId + 1
          teardownId := some (.number b.nextId)
          pending := []
          phase := .tearingDown }
  | endsAlready (reason) (late : .tearingDown ≤ b.phase) : Turn b (.teardown reason) [] b

/-- What the client is asked before a call is judged. -/
def listing (known : Option (List Tool)) : List HostEvent :=
  if known = none then [.listTools] else []

/-- How the call of a tool goes: the tools cannot be listed, or they are known or listed now and
the call is refused or handed to the handlers. -/
inductive Called (s : Surroundings) (b : Bridge) (call : ToolCall) : Answered → Prop
  | unlisted (e) (unknown : b.tools = none) (fails : s.client.listTools = .error e) :
      Called s b call ⟨.error e.errorData,b,listing b.tools⟩
  | refused (tools e) (known : b.tools.or s.client.listTools.toOption = some tools)
      (shut : checkCallable tools call.name = .error e) :
      Called s b call ⟨.error e,{ b with tools := some tools },listing b.tools⟩
  | passed (tools) (known : b.tools.or s.client.listTools.toOption = some tools)
      (opened : checkCallable tools call.name = .ok ()) :
      Called s b call ⟨answer ToolResult.encode (s.toolCall call).1,{ b with tools := some tools },
        listing b.tools ++ (s.toolCall call).2⟩

private theorem knownTools_cases (s : Surroundings) (b : Bridge) :
    (∃ e, b.tools = none ∧ s.client.listTools = .error e ∧
      b.knownTools s = (.error e,b,listing b.tools)) ∨
    ∃ tools, b.tools.or s.client.listTools.toOption = some tools ∧
      b.knownTools s = (.ok tools,{ b with tools := some tools },listing b.tools) := by
  unfold knownTools
  split
  next tools held =>
    have same : { b with tools := some tools } = b := by rw [← held]
    exact .inr ⟨tools,by rw [held]; rfl,by rw [same,listing,held]; rfl⟩
  next unknown =>
    split
    next tools lists => exact .inr ⟨tools,by rw [unknown,lists]; rfl,by rw [listing,unknown]; rfl⟩
    next e fails => exact .inl ⟨e,unknown,fails,by rw [listing,unknown]; rfl⟩

theorem callTool_called (s : Surroundings) (b : Bridge) (call : ToolCall) :
    Called s b call (b.callTool s call) := by
  unfold callTool
  obtain ⟨e,unknown,fails,known⟩ | ⟨tools,given,known⟩ := knownTools_cases s b
  · rw [known]
    exact .unlisted e unknown fails
  · rw [known]
    dsimp only
    split
    next e shut => exact .refused tools e given shut
    next opened => exact .passed tools given opened

private theorem callTool_bridge (s : Surroundings) (b : Bridge) (call : ToolCall) :
    ∃ tools, (b.callTool s call).bridge = { b with tools := tools } := by
  have called := callTool_called s b call
  generalize b.callTool s call = answered at called ⊢
  cases called with
  | unlisted e unknown fails => exact ⟨b.tools,rfl⟩
  | refused tools e known shut => exact ⟨some tools,rfl⟩
  | passed tools known opened => exact ⟨some tools,rfl⟩

/-- How a request is answered: at most the tools become known, or the view is introduced, or it is
shown in a mode. Only the last two answer their methods with success. -/
inductive Answers (b : Bridge) (r : Rpc.Request) : Answered → Prop
  | plain (reply tools events) (other : r.method = Method.handshake ∨
        r.method = Method.requestDisplayMode → ∃ e, reply = .error e) :
      Answers b r ⟨reply,{ b with tools := tools },events⟩
  | introduced (p) (method : r.method = Method.handshake) :
      Answers b r ⟨(b.introduce p).1,(b.introduce p).2,[]⟩
  | granted (mode events) (method : r.method = Method.requestDisplayMode) :
      Answers b r ⟨.ok (DisplayModeParams.mk mode).encode,b.shownIn mode,events⟩

theorem request_answers (s : Surroundings) (b : Bridge) (r : Rpc.Request) :
    Answers b r (b.request s r) := by
  have plain (a : Answered) (same : ∃ tools, a.bridge = { b with tools := tools })
      (apart : r.method ≠ Method.handshake ∧ r.method ≠ Method.requestDisplayMode) :
      Answers b r a := by
    obtain ⟨tools,same⟩ := same
    obtain ⟨reply,_,events⟩ := a
    cases same
    exact .plain reply tools events fun either => absurd either (not_or.mpr apart)
  unfold request
  split_ifs with handshake ping link message display model call read
  · split
    next e refused => exact .plain _ b.tools _ fun _ => ⟨e,rfl⟩
    next p read => exact .introduced p handshake
  · exact plain _ ⟨b.tools,rfl⟩ (by rw [ping]; decide)
  · refine plain _ ?_ (by rw [link]; decide)
    split <;> exact ⟨b.tools,rfl⟩
  · refine plain _ ?_ (by rw [message]; decide)
    split <;> exact ⟨b.tools,rfl⟩
  · split
    next e refused => exact .plain _ b.tools _ fun _ => ⟨e,rfl⟩
    next p read => exact .granted _ _ display
  · refine plain _ ?_ (by rw [model]; decide)
    split <;> exact ⟨b.tools,rfl⟩
  · refine plain _ ?_ (by rw [call]; decide)
    split
    · exact ⟨b.tools,rfl⟩
    · exact callTool_bridge s b _
  · refine plain _ ?_ (by rw [read]; decide)
    split <;> exact ⟨b.tools,rfl⟩
  · exact plain _ ⟨b.tools,rfl⟩ ⟨handshake,display⟩

theorem introduce_shape (b : Bridge) (p : InitializeParams) (opened : b.phase ≠ .closed) :
    (∃ e, b.introduce p = (.error e,b)) ∨
    (b.phase < .initializing ∧ ∃ result : InitializeResult,
      result.hostContext = some b.hostContext ∧ b.introduce p = (.ok result.encode,
        { b with
          appInfo := p.clientInfo
          protocolVersion := some result.protocolVersion
          phase := .initializing })) := by
  unfold introduce
  split
  next => exact .inl ⟨_,rfl⟩
  next => exact .inl ⟨_,rfl⟩
  next => exact .inl ⟨_,rfl⟩
  next early => exact .inr ⟨by rw [early]; decide,_,rfl,rfl⟩
  next early => exact .inr ⟨by rw [early]; decide,_,rfl,rfl⟩
  next early => exact .inr ⟨by rw [early]; decide,_,rfl,rfl⟩
  next closed => exact absurd closed opened

private theorem request_turn (s : Surroundings) (b : Bridge) (message : Json) (r : Rpc.Request)
    (said : Rpc.Message.decode message = .ok (.request r)) (opened : b.phase ≠ .closed) :
    Turn b (.message message) (b.step s (.message message)).posted
      (b.step s (.message message)).bridge := by
  simp only [step,handleMessage,if_neg opened,said,Output.posted]
  have answers := request_answers s b r
  generalize b.request s r = answered at answers
  cases answers with
  | plain reply tools events other =>
    refine .answered message r _ tools said opened ?_ ?_
    · cases reply <;> rfl
    · intro either
      obtain ⟨e,refused⟩ := other either
      rw [refused]
      rfl
  | introduced p method =>
    obtain ⟨e,refused⟩ | ⟨early,result,shown,accepted⟩ := introduce_shape b p opened
    · rw [refused]
      exact .answered message r (.failure r.id e) b.tools said opened rfl fun _ => rfl
    · rw [accepted]
      exact .introduced message r p.clientInfo result said method early shown
  | granted mode events method => exact .granted message r mode said method opened

private theorem notification_turn (s : Surroundings) (b : Bridge) (message : Json)
    (n : Rpc.Notification) (said : Rpc.Message.decode message = .ok (.notification n))
    (opened : b.phase ≠ .closed) :
    Turn b (.message message) (b.step s (.message message)).posted
      (b.step s (.message message)).bridge := by
  have unheard (passed : b.LetsPass (some (.notification n))) : Turn b (.message message) [] b := by
    rw [← said_message said] at passed
    exact .unheard message passed
  simp only [step,handleMessage,if_neg opened,said,Output.posted]
  unfold notification
  split_ifs with ready waiting listens introduced size
  · exact .loaded message n said ready waiting
  · exact unheard fun _ =>
      ⟨fun _ => waiting,fun other => absurd (ready.symm.trans other) (by decide)⟩
  · exact .listens message n said listens introduced
  · exact unheard fun _ => ⟨fun other => absurd other ready,fun _ => introduced⟩
  · split <;> exact unheard fun _ => ⟨fun other => absurd other ready,
      fun other => absurd other listens⟩
  · exact unheard fun _ => ⟨fun other => absurd other ready,fun other => absurd other listens⟩

private theorem message_turn (s : Surroundings) (b : Bridge) (message : Json) :
    Turn b (.message message) (b.step s (.message message)).posted
      (b.step s (.message message)).bridge := by
  by_cases closed : b.phase = .closed
  · simp only [step,handleMessage,if_pos closed]
    refine .unheard message ?_
    cases (Input.message message).said? with
    | none => trivial
    | some m =>
      cases m with
      | request r => exact closed
      | response r => exact fun waiting => absurd (closed.symm.trans waiting.1) (by decide)
      | notification n => exact fun opened => absurd closed opened
      | failure f => trivial
      | none => trivial
  cases said : Rpc.Message.decode message with
  | error cause =>
    simp only [step,handleMessage,if_neg closed,said]
    refine .unheard message ?_
    rw [Input.said?,said]
    trivial
  | ok m =>
    cases m with
    | request r => exact request_turn s b message r said closed
    | notification n => exact notification_turn s b message n said closed
    | response r =>
      simp only [step,handleMessage,if_neg closed,said,Output.posted,response]
      split_ifs with ends
      · exact .ended message r said ends.1 ends.2
      · exact .unheard message (by rw [said_message said]; exact ends)
    | failure f =>
      simp only [step,handleMessage,if_neg closed,said]
      exact .unheard message (by rw [said_message said]; trivial)
    | none =>
      simp only [step,handleMessage,if_neg closed,said]
      exact .unheard message (by rw [said_message said]; trivial)

private theorem send_turn (b : Bridge) (input : Input) (n : Rpc.Notification)
    (tells : input.tells? = some n) :
    Turn b input (told (b.send n)).posted (told (b.send n)).bridge := by
  unfold send
  split
  next listens => exact .told input n tells listens
  next late => exact .dropped input n tells late.ge
  next late => exact .dropped input n tells (by rw [late]; decide)
  iterate 4
    next early => exact .held input n tells (by rw [early]; decide)

private theorem context_turn (b : Bridge) (context : HostContext) :
    Turn b (.hostContext context) (told (b.setHostContext context)).posted
      (told (b.setHostContext context)).bridge := by
  unfold setHostContext
  dsimp only
  split
  next listens => exact .changed context listens
  next introduced => exact .changeHeld context introduced
  iterate 5
    next apart =>
      exact .changeKept context (by rw [apart]; decide)

private theorem teardown_turn (b : Bridge) (reason : Option String) :
    Turn b (.teardown reason)
      (Output.mk (b.teardown reason).1 (b.teardown reason).2 []).posted (b.teardown reason).2 := by
  unfold teardown
  split
  next late => exact .endsAlready reason (by rw [late]; decide)
  next late => exact .endsAlready reason late.ge
  iterate 3
    next early => exact .closedAtOnce reason (by rw [early]; decide)
  next listens => exact .asked reason (.inr listens)
  next introduced => exact .asked reason (.inl introduced)

/-- Every step of a bridge is one of its turns. -/
theorem step_turn (s : Surroundings) (b : Bridge) (input : Input) :
    Turn b input (b.step s input).posted (b.step s input).bridge := by
  cases input with
  | message message => exact message_turn s b message
  | toolInput arguments => exact send_turn b _ _ rfl
  | toolInputPartial arguments => exact send_turn b _ _ rfl
  | toolResult result => exact send_turn b _ _ rfl
  | toolCancelled reason => exact send_turn b _ _ rfl
  | hostContext context => exact context_turn b context
  | teardown reason => exact teardown_turn b reason

end ToolView.Bridge
