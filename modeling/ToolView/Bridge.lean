import ToolView.Host.Plan
import ToolView.Host.Surroundings

/-! The host's end of the bridge to a view. The bridge takes every message that the view or its
sandbox posts, and gives the messages to post in return; what the host has to tell the view waits
until the view can hear it. -/

namespace ToolView

inductive Bridge.Phase where
  | awaitingProxy
  | proxyReady
  | loaded
  | initializing
  | initialized
  | tearingDown
  | closed
  deriving DecidableEq

structure Bridge where
  phase : Bridge.Phase
  config : HostConfig
  plan : RenderPlan
  hostContext : Bridge.HostContext
  displayMode : DisplayMode
  appInfo : Option Bridge.AppInfo
  protocolVersion : Option String
  pending : List Rpc.Notification
  tools : Option (List Tool)
  nextId : Int64
  teardownId : Option Rpc.Id
  deriving DecidableEq

namespace Bridge

inductive Error where
  | closed
  | invalidMessage (cause : DecodeError)
  deriving DecidableEq

def Error.message : Error → String
  | .closed => "Bridge is closed"
  | .invalidMessage cause => "Invalid bridge message: " ++ cause.message

def start (config : HostConfig) (plan : RenderPlan) : Bridge :=
  ⟨.awaitingProxy, config, plan, config.hostContext, config.initialDisplayMode, none, none, [],
    none, 1, none⟩

structure Answered where
  reply : Except Rpc.ErrorData Json
  bridge : Bridge
  events : List HostEvent

def nothing : Json := .ofObject .empty

/-- Reads what a request carries; one that carries nothing carries `null`. -/
def params {α : Type} (decode : Json → Except DecodeError α) (value : Option Json) :
    Except Rpc.ErrorData α :=
  (decode (value.getD .null)).mapError fun e => .plain Rpc.ErrorData.invalidParams e.message

def answer {α : Type} (encode : α → Json) (result : Except HostError α) :
    Except Rpc.ErrorData Json :=
  match result with
  | .ok value => .ok (encode value)
  | .error e => .error e.errorData

/-- The version that the host is configured for is a limit only if it is one that is spoken. -/
def chooseVersion (configured requested : String) : String :=
  let version := negotiateVersion requested
  if configured ∈ versions ∧ configured < version then negotiateVersion configured else version

def introduce (b : Bridge) (p : InitializeParams) : Except Rpc.ErrorData Json × Bridge :=
  match b.phase with
  | .initializing | .initialized | .tearingDown =>
    (.error (.plain Rpc.ErrorData.invalidRequest "view is already initialized"), b)
  | .awaitingProxy | .proxyReady | .loaded | .closed =>
    let version := chooseVersion b.config.protocolVersion p.protocolVersion
    let result : InitializeResult :=
      ⟨version, b.config.hostCapabilities, b.config.hostInfo, some b.hostContext⟩
    (.ok result.encode,
      { b with appInfo := p.clientInfo, protocolVersion := some version, phase := .initializing })

/-- The mode that a view gets when it asks for one: what the handlers grant if the host offers
both that and what was asked for, else the mode it has. -/
def grantMode (s : Surroundings) (b : Bridge) (mode : DisplayMode) :
    DisplayMode × List HostEvent :=
  if mode ∈ b.config.displayModes then
    let granted := match s.handlers.displayMode mode with
      | some granted => if granted ∈ b.config.displayModes then granted else b.displayMode
      | none => b.displayMode
    (granted, [.displayMode mode])
  else (b.displayMode, [])

def knownTools (s : Surroundings) (b : Bridge) :
    Except HostError (List Tool) × Bridge × List HostEvent :=
  match b.tools with
  | some tools => (.ok tools, b, [])
  | none =>
    match s.client.listTools with
    | .ok tools => (.ok tools, { b with tools := some tools }, [.listTools])
    | .error e => (.error e, b, [.listTools])

/-- Whether a view may call a tool: the first one of that name must be open to apps. -/
def checkCallable (tools : List Tool) (name : String) : Except Rpc.ErrorData Unit :=
  match tools.find? (fun t => t.name == name) with
  | none => .error (.plain Rpc.ErrorData.invalidParams ("Tool not found: " ++ name))
  | some tool =>
    if tool.isVisibleTo .app then .ok ()
    else
      .error (.plain Rpc.ErrorData.invalidParams ("Tool " ++ name ++ " is not callable from apps"))

def callTool (s : Surroundings) (b : Bridge) (call : ToolCall) : Answered :=
  let (tools, b, listed) := b.knownTools s
  match tools with
  | .error e => ⟨.error e.errorData, b, listed⟩
  | .ok tools =>
    match checkCallable tools call.name with
    | .error e => ⟨.error e, b, listed⟩
    | .ok () =>
      let (result, events) := s.toolCall call
      ⟨answer ToolResult.encode result, b, listed ++ events⟩

def request (s : Surroundings) (b : Bridge) (r : Rpc.Request) : Answered :=
  if r.method = Method.handshake then
    match params InitializeParams.decode r.params with
    | .error e => ⟨.error e, b, []⟩
    | .ok p => let (reply, b) := b.introduce p; ⟨reply, b, []⟩
  else if r.method = Method.ping then ⟨.ok nothing, b, []⟩
  else if r.method = Method.openLink then
    match params OpenLinkParams.decode r.params with
    | .error e => ⟨.error e, b, []⟩
    | .ok p => ⟨answer (fun () => nothing) (s.handlers.openLink p.url), b, [.openLink p.url]⟩
  else if r.method = Method.message then
    match params MessageParams.decode r.params with
    | .error e => ⟨.error e, b, []⟩
    | .ok p => ⟨answer (fun () => nothing) (s.handlers.message p), b, [.message p]⟩
  else if r.method = Method.requestDisplayMode then
    match params DisplayModeParams.decodeRequest r.params with
    | .error e => ⟨.error e, b, []⟩
    | .ok p =>
      let (mode, events) := b.grantMode s p.mode
      ⟨.ok (DisplayModeParams.mk mode).encode,
        { b with
          displayMode := mode
          hostContext := { b.hostContext with displayMode := some mode } }, events⟩
  else if r.method = Method.updateModelContext then
    match params ModelContextParams.decode r.params with
    | .error e => ⟨.error e, b, []⟩
    | .ok p => ⟨answer (fun () => nothing) (s.handlers.modelContext p), b, [.modelContext p]⟩
  else if r.method = Method.callTool then
    match params ToolCall.decode r.params with
    | .error e => ⟨.error e, b, []⟩
    | .ok call => b.callTool s call
  else if r.method = Method.readResource then
    match params ReadResourceParams.decode r.params with
    | .error e => ⟨.error e, b, []⟩
    | .ok p =>
      ⟨answer ReadResourceResult.encode (s.client.readResource p.uri), b, [.readResource p.uri]⟩
  else ⟨.error (.unknownMethod r.method), b, []⟩

def resourceReady (b : Bridge) : Rpc.Notification :=
  .of Method.resourceReady (some (ResourceReadyParams.mk b.plan.content
    (some b.plan.sandbox.sandbox) ((b.plan.needs.bind (·.sources)).map ViewSources.sanitize)
    (b.plan.needs.bind (·.permissions))).encode)

def isToolInput (n : Rpc.Notification) : Bool :=
  n.method == Method.toolInputPartial || n.method == Method.toolInput

/-- What waits for the view, the input of its tool first. -/
def inOrder (pending : List Rpc.Notification) : List Rpc.Notification :=
  pending.filter isToolInput ++ pending.filter (fun n => !isToolInput n)

def notification (b : Bridge) (n : Rpc.Notification) :
    List Rpc.Notification × Bridge × List HostEvent :=
  if n.method = Method.proxyReady then
    if b.phase = .awaitingProxy then
      let b := { b with phase := .proxyReady }
      ([b.resourceReady], { b with phase := .loaded }, [])
    else ([], b, [])
  else if n.method = Method.initialized then
    if b.phase = .initializing then
      (inOrder b.pending, { b with phase := .initialized, pending := [] }, [])
    else ([], b, [])
  else if n.method = Method.sizeChanged then
    match params SizeChangedParams.decode n.params with
    | .ok p => ([], b, [.sizeChanged p.width p.height])
    | .error _ => ([], b, [])
  else ([], b, [])

def response (b : Bridge) (r : Rpc.Response) : Bridge :=
  if b.phase = .tearingDown ∧ b.teardownId = some r.id then
    { b with teardownId := none, phase := .closed }
  else b

structure Output where
  messages : Except Error (List Rpc.Message)
  bridge : Bridge
  events : List HostEvent

def handleMessage (s : Surroundings) (b : Bridge) (message : Json) : Output :=
  if b.phase = .closed then ⟨.error .closed, b, []⟩ else
  match Rpc.Message.decode message with
  | .error cause => ⟨.error (.invalidMessage cause), b, []⟩
  | .ok (.request r) =>
    let answered := b.request s r
    let response := match answered.reply with
      | .ok result => Rpc.Response.success r.id result
      | .error e => Rpc.Response.failure r.id e
    ⟨.ok [.response response], answered.bridge, answered.events⟩
  | .ok (.notification n) =>
    let (out, b, events) := b.notification n
    ⟨.ok (out.map .notification), b, events⟩
  | .ok (.response r) => ⟨.ok [], b.response r, []⟩
  | .ok (.failure _) | .ok .none => ⟨.ok [], b, []⟩

/-- Tells the view something, now or when it listens; a view that ends is told nothing. -/
def send (b : Bridge) (n : Rpc.Notification) : List Rpc.Notification × Bridge :=
  match b.phase with
  | .initialized => ([n], b)
  | .tearingDown | .closed => ([], b)
  | .awaitingProxy | .proxyReady | .loaded | .initializing =>
    ([], { b with pending := b.pending ++ [n] })

def sendToolInput (b : Bridge) (arguments : Json) : List Rpc.Notification × Bridge :=
  b.send (.of Method.toolInput (some (ToolInputParams.mk arguments).encode))

def sendToolInputPartial (b : Bridge) (arguments : Json) : List Rpc.Notification × Bridge :=
  b.send (.of Method.toolInputPartial (some (ToolInputParams.mk arguments).encode))

def sendToolResult (b : Bridge) (result : ToolResult) : List Rpc.Notification × Bridge :=
  b.send (.of Method.toolResult (some (ToolResultParams.mk
    (some (result.content.map Content.encode)) result.structuredContent result.isError?
    (result.meta?.map .ofObject)).encode))

def sendToolCancelled (b : Bridge) (reason : Option String) : List Rpc.Notification × Bridge :=
  b.send (.of Method.toolCancelled (some (ToolCancelledParams.mk reason).encode))

/-- Puts the view into other surroundings. A view that listens is told at once; one that has
introduced itself is told when it listens, and only of the last change. -/
def setHostContext (b : Bridge) (context : HostContext) : List Rpc.Notification × Bridge :=
  let b := { b with displayMode := context.displayMode.getD b.displayMode, hostContext := context }
  let changed := Rpc.Notification.of Method.contextChanged (some context.encode)
  match b.phase with
  | .initialized => ([changed], b)
  | .initializing =>
    ([], { b with
      pending := b.pending.filter (fun n => n.method != Method.contextChanged) ++ [changed] })
  | .awaitingProxy | .proxyReady | .loaded | .tearingDown | .closed => ([], b)

/-- Asks the view to end. One that has not introduced itself is closed right away. -/
def teardown (b : Bridge) (reason : Option String) : Except Error (List Rpc.Message) × Bridge :=
  match b.phase with
  | .closed => (.error .closed, b)
  | .tearingDown => (.ok [], b)
  | .awaitingProxy | .proxyReady | .loaded => (.ok [], { b with pending := [], phase := .closed })
  | .initialized | .initializing =>
    let id := Rpc.Id.number b.nextId
    (.ok [.request (.of id Method.teardown (some (TeardownParams.mk reason).encode))],
      { b with
        nextId := b.nextId + 1
        teardownId := some id
        pending := []
        phase := .tearingDown })

inductive Input where
  | message (message : Json)
  | toolInput (arguments : Json)
  | toolInputPartial (arguments : Json)
  | toolResult (result : ToolResult)
  | toolCancelled (reason : Option String)
  | hostContext (context : HostContext)
  | teardown (reason : Option String)

def told (out : List Rpc.Notification × Bridge) : Output :=
  ⟨.ok (out.1.map .notification), out.2, []⟩

def step (s : Surroundings) (b : Bridge) (input : Input) : Output :=
  match input with
  | .message message => b.handleMessage s message
  | .toolInput arguments => told (b.sendToolInput arguments)
  | .toolInputPartial arguments => told (b.sendToolInputPartial arguments)
  | .toolResult result => told (b.sendToolResult result)
  | .toolCancelled reason => told (b.sendToolCancelled reason)
  | .hostContext context => told (b.setHostContext context)
  | .teardown reason => let (out, b) := b.teardown reason; ⟨out, b, []⟩

def run (b : Bridge) : List (Surroundings × Input) → List Output
  | [] => []
  | (s, input) :: rest =>
    let out := b.step s input
    out :: run out.bridge rest

end Bridge

end ToolView
