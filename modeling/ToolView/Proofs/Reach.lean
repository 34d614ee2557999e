import Mathlib
import ToolView.Bridge
import ToolView.Proofs.Bridge.Run
import ToolView.Proofs.Server.Answers
import ToolView.Proofs.Server.Registry

/-! What a view reaches on the server when it calls a tool through its host. The server leaves out
of its list what is not for the model, and the host looks a tool up in that list: a tool that is for
apps alone is served, but no view gets to it. -/

namespace ToolView

/-- The client asks the server, by its dispatch, and reads what it answers. -/
structure Client.Asks (client : Client) (s : Server) (refused : Server.Error → HostError)
    (garbled : DecodeError → HostError) : Prop where
  lists : client.listTools = do
    let json ← (s.result Server.Method.listTools none).mapError refused
    let result ← (ListToolsResult.decode json).mapError garbled
    return result.tools
  calls : ∀ call, client.callTool call = do
    let json ← (s.result Server.Method.callTool (some call.encode)).mapError refused
    (ToolResult.decode json).mapError garbled

namespace Client.Asks

variable {client : Client} {s : Server} {refused : Server.Error → HostError}
  {garbled : DecodeError → HostError}

theorem listTools (asks : client.Asks s refused garbled) : client.listTools = .ok s.listTools :=
  asks.lists.trans (s.read_listTools refused garbled)

/-- A tool that is served answers through the wire. -/
theorem callTool (asks : client.Asks s refused garbled) {call : ToolCall} {t : ServedTool}
    (served : s.tools.served.get? call.name = some t) :
    client.callTool call = .ok (t.call call.arguments).withoutNull := by
  have answer : s.callTool call = .ok (t.call call.arguments) := by
    rw [Server.callTool,Toolset.call,served]
  rw [asks.calls,s.result_callTool,answer]
  change (ToolResult.decode (ToolResult.encode _)).mapError garbled = _
  rw [ToolResult.decode_encode]
  rfl

end Client.Asks

namespace Bridge

theorem request_callTool (sur : Surroundings) (b : Bridge) {r : Rpc.Request} {call : ToolCall}
    (method : r.method = Method.callTool) (read : params ToolCall.decode r.params = .ok call) :
    b.request sur r = b.callTool sur call := by
  unfold request
  rw [method,if_neg (by decide),if_neg (by decide),if_neg (by decide),if_neg (by decide),
    if_neg (by decide),if_neg (by decide),if_pos rfl,read]

theorem callTool_reply {sur : Surroundings} {b : Bridge} {tools : List Tool}
    (lists : sur.client.listTools = .ok tools)
    (cached : ∀ known, b.tools = some known → known = tools) (call : ToolCall) :
    (b.callTool sur call).reply =
      (checkCallable tools call.name).bind fun () =>
        answer ToolResult.encode (sur.toolCall call).1 := by
  have called := callTool_called sur b call
  have same {given : List Tool} (known : b.tools.or sur.client.listTools.toOption = some given) :
      given = tools := by
    rw [lists] at known
    cases held : b.tools with
    | none => rw [held] at known; exact (Option.some.inj known).symm
    | some other => rw [held] at known; cases known; exact cached given held
  generalize b.callTool sur call = answered at called ⊢
  cases called with
  | unlisted e unknown fails => rw [lists] at fails; cases fails
  | refused given e known shut => rw [← same known,shut]; rfl
  | passed given known opened => rw [← same known,opened]; rfl

def responseTo (id : Rpc.Id) : Except Rpc.ErrorData Json → Rpc.Response
  | .ok result => .success id result
  | .error e => .failure id e

theorem message_callTool (sur : Surroundings) {b : Bridge} {message : Json} {r : Rpc.Request}
    {call : ToolCall} (alive : b.phase ≠ .closed)
    (said : Rpc.Message.decode message = .ok (.request r)) (method : r.method = Method.callTool)
    (read : params ToolCall.decode r.params = .ok call) :
    (b.step sur (.message message)).messages =
      .ok [.response (responseTo r.id (b.callTool sur call).reply)] := by
  simp only [step,handleMessage,if_neg alive,said,request_callTool sur b method read]
  cases (b.callTool sur call).reply <;> rfl

def notFound (name : String) : Rpc.ErrorData :=
  .plain Rpc.ErrorData.invalidParams ("Tool not found: " ++ name)

/-- Of the tools for apps, the host finds those in a server's list that are for the model too. -/
theorem checkCallable_listTools {s : Server} (keyed : s.tools.Keyed) {t : ServedTool}
    (served : s.tools.served.get? t.tool.name = some t) (app : t.tool.isVisibleTo .app) :
    checkCallable s.listTools t.tool.name =
      if t.tool.isVisibleTo .model then .ok () else .error (notFound t.tool.name) := by
  rw [checkCallable,Server.listTools,keyed.find?_filter,served,Option.map_some,Option.filter_some]
  split_ifs
  · exact if_pos app
  · rfl

theorem toolCall_default {sur : Surroundings} (handlers : sur.handlers = .default)
    (call : ToolCall) : (sur.toolCall call).1 = sur.client.callTool call := by
  rw [Surroundings.toolCall,handlers]
  rfl

/-- How a host with its own handlers answers the call of a tool for apps that its server serves. -/
theorem callTool_served {s : Server} (keyed : s.tools.Keyed) {t : ServedTool}
    (served : s.tools.served.get? t.tool.name = some t) (app : t.tool.isVisibleTo .app)
    {sur : Surroundings} {refused : Server.Error → HostError} {garbled : DecodeError → HostError}
    (asks : sur.client.Asks s refused garbled) (handlers : sur.handlers = .default) {b : Bridge}
    (cached : ∀ known, b.tools = some known → sur.client.listTools = .ok known) {call : ToolCall}
    (named : call.name = t.tool.name) :
    (b.callTool sur call).reply =
      if t.tool.isVisibleTo .model then .ok (t.call call.arguments).withoutNull.encode
      else .error (notFound t.tool.name) := by
  have same (known : List Tool) (held : b.tools = some known) : known = s.listTools :=
    (Except.ok.inj (asks.listTools.symm.trans (cached known held))).symm
  have standing : s.tools.served.get? call.name = some t := named ▸ served
  have answers := asks.callTool standing
  rw [callTool_reply asks.listTools same,named,checkCallable_listTools keyed served app,
    toolCall_default handlers,answers]
  split_ifs <;> rfl

end Bridge

theorem ToolResult.encode_withoutNull {r : ToolResult} :
    r.withoutNull.encode = r.encode ↔ r.structuredContent ≠ some .null := by
  refine ⟨fun same null => ?_,fun kept => by rw [withoutNull_eq_self.mpr kept]⟩
  have distinct : ["content","structuredContent","isError","_meta"].Nodup := by decide
  have members := congrArg (Json.get? "structuredContent") same
  rw [encode,encode,Json.get?_record,Json.get?_record] at members
  · change r.withoutNull.structuredContent = r.structuredContent at members
    rw [withoutNull,null] at members
    cases members
  · exact distinct
  · exact distinct

namespace Bridge

/-- A view calls a tool that is registered with the server and open to apps, through a host that
leaves the call to the server. It gets what the tool's handler gives, as it reads over the wire, if
the tool is open to the model as well; if not, the host does not find the tool. -/
theorem app_tool_answer {s : Server} {registrations : List Server.Registration}
    (built : s.Built registrations) {r : Server.Registration} (member : r ∈ registrations)
    {t : ServedTool} (adds : r.tool? = some t) (app : t.tool.isVisibleTo .app)
    {sur : Surroundings} {refused : Server.Error → HostError} {garbled : DecodeError → HostError}
    (asks : sur.client.Asks s refused garbled) (handlers : sur.handlers = .default)
    {b : Bridge} (alive : b.phase ≠ .closed)
    (cached : ∀ known, b.tools = some known → sur.client.listTools = .ok known)
    {message : Json} {request : Rpc.Request}
    (said : Rpc.Message.decode message = .ok (.request request))
    (method : request.method = Method.callTool) {call : ToolCall}
    (read : params ToolCall.decode request.params = .ok call) (named : call.name = t.tool.name) :
    (b.step sur (.message message)).messages =
      .ok [.response (if t.tool.isVisibleTo .model then
        .success request.id (t.call call.arguments).withoutNull.encode
        else .failure request.id (notFound t.tool.name))] ∧
    ((b.step sur (.message message)).messages =
      .ok [.response (.success request.id (t.call call.arguments).encode)] ↔
      t.tool.isVisibleTo .model ∧ (t.call call.arguments).structuredContent ≠ some .null) := by
  have answer : (b.step sur (.message message)).messages =
      .ok [.response (if t.tool.isVisibleTo .model then
        .success request.id (t.call call.arguments).withoutNull.encode
        else .failure request.id (notFound t.tool.name))] := by
    rw [message_callTool sur alive said method read,
      callTool_served built.keyed (built.serves member adds) app asks handlers cached named]
    split_ifs <;> rfl
  refine ⟨answer,?_⟩
  rw [answer]
  split_ifs with model
  · have same : Rpc.Response.success request.id (t.call call.arguments).withoutNull.encode =
        .success request.id (t.call call.arguments).encode ↔
        (t.call call.arguments).withoutNull.encode = (t.call call.arguments).encode :=
      ⟨fun equal => Option.some.inj (congrArg Rpc.Response.result equal),fun equal => by rw [equal]⟩
    simp only [Except.ok.injEq,List.cons.injEq,and_true,Rpc.Message.response.injEq,same,
      ToolResult.encode_withoutNull,model,true_and]
  · simp [model,Rpc.Response.success,Rpc.Response.failure]

namespace Sample

-- A server with one tool for apps alone, and one for everyone, whose handler fails.

def refresh : ServedTool where
  tool := (AppTool.none.withView ⟨"ui://sample/view",some [.app]⟩).named "refresh"
  handler := fun _ => .ok (.success [.ofText "refreshed"])

def status : ServedTool where
  tool := .of "status" "What goes on" Tool.emptySchema
  handler := fun _ => .error (.execution "offline")

def registrations : List Server.Registration :=
  [.appTool "refresh" (AppTool.none.withView ⟨"ui://sample/view",some [.app]⟩) refresh.handler,
    .tool status.tool status.handler]

def server : Server :=
  ((Server.named "sample").registerAll registrations).toOption.getD (.named "sample")

theorem server_built : server.Built registrations := .of_isOk (by decide +kernel)

def client : Client where
  listTools := do
    let json ← (server.result Server.Method.listTools none).mapError fun e => .client e.message
    let result ← (ListToolsResult.decode json).mapError fun e => .json e.message
    return result.tools
  callTool call := do
    let json ← (server.result Server.Method.callTool (some call.encode)).mapError
      fun e => .client e.message
    (ToolResult.decode json).mapError fun e => .json e.message
  readResource uri := .error (.invalidResource uri)

theorem client_asks :
    client.Asks server (fun e => .client e.message) (fun e => .json e.message) :=
  ⟨rfl,fun _ => rfl⟩

def served : Surroundings := ⟨client,.default⟩

def listening : Bridge := (start host plan).final (introduction ++ [tells Method.initialized])

def calls (name : String) : Rpc.Request :=
  .of (.number 2) Method.callTool (some (ToolCall.mk name (some .empty)).encode)

end Sample

/-- The failure of a tool that everyone may call comes to the view as a result. -/
theorem app_tool_answer_status : Sample.server.Built Sample.registrations ∧
    Sample.status.tool.isVisibleTo .app ∧ Sample.listening.phase ≠ .closed ∧
    (Sample.listening.step Sample.served (.message (Sample.calls "status").encode)).messages =
      .ok [.response (.success (.number 2)
        (ToolResult.failure [.ofText "Execution failed: offline"]).encode)] := by
  have member : .tool Sample.status.tool Sample.status.handler ∈ Sample.registrations :=
    List.mem_cons_of_mem _ (List.mem_singleton_self _)
  have app : Sample.status.tool.isVisibleTo .app := by decide +kernel
  have asks : Sample.served.client.Asks Sample.server _ _ := Sample.client_asks
  have alive : Sample.listening.phase ≠ .closed := by decide +kernel
  have cached (known : List Tool) (held : Sample.listening.tools = some known) :
      Sample.served.client.listTools = .ok known := by
    cases held
  have said : Rpc.Message.decode (Sample.calls "status").encode =
      .ok (.request (Sample.calls "status")) := rfl
  have read : params ToolCall.decode (Sample.calls "status").params =
      .ok ⟨"status",some .empty⟩ := rfl
  have answer := app_tool_answer Sample.server_built member rfl app asks rfl alive cached said rfl
    read rfl
  exact ⟨Sample.server_built,app,alive,answer.2.mpr ⟨by decide +kernel,nofun⟩⟩

/-- The view of a tool for apps alone is told that there is no such tool. -/
theorem app_only_tool_not_found : Sample.server.Built Sample.registrations ∧
    .appTool "refresh" (AppTool.none.withView ⟨"ui://sample/view",some [.app]⟩)
      Sample.refresh.handler ∈ Sample.registrations ∧
    Sample.refresh.tool.visibility = [.app] ∧
    Sample.client.Asks Sample.server (fun e => .client e.message) (fun e => .json e.message) ∧
    Sample.listening.phase = .initialized ∧ Sample.listening.tools = none ∧
    Rpc.Message.decode (Sample.calls "refresh").encode = .ok (.request (Sample.calls "refresh")) ∧
    (Sample.listening.step Sample.served (.message (Sample.calls "refresh").encode)).messages =
      .ok [.response (.failure (.number 2) (notFound "refresh"))] ∧
    (Sample.listening.step Sample.served (.message (Sample.calls "refresh").encode)).messages ≠
      .ok [.response (.success (.number 2) (Sample.refresh.call (some .empty)).encode)] := by
  refine ⟨Sample.server_built,List.mem_cons_self,?_,Sample.client_asks,?_,rfl,rfl,?_,?_⟩
  · decide +kernel
  · decide +kernel
  · decide +kernel
  · decide +kernel

end Bridge

end ToolView
