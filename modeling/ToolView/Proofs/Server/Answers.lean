import Mathlib
import ToolView.Server.Request
import ToolView.Proofs.Wire

/-! What a client that asks a server reads in the answers: the tools that the server lists, the
result of a call, the contents of a resource. -/

namespace ToolView.Server

theorem result_listTools (s : Server) (value : Option Json) :
    s.result Method.listTools value = .ok (ListToolsResult.mk s.listTools none).encode := by
  rw [result,Provider.result,if_neg (by decide),if_neg (by decide),if_pos rfl]
  rfl

theorem result_listResources (s : Server) (value : Option Json) :
    s.result Method.listResources value =
      .ok (ListResourcesResult.mk s.listResources none).encode := by
  rw [result,Provider.result,if_neg (by decide),if_neg (by decide),if_neg (by decide),
    if_neg (by decide),if_pos rfl]
  rfl

/-- A client that asks for the tools reads them as they are listed. -/
theorem read_listTools {ε : Type} (s : Server) (refused : Error → ε) (garbled : DecodeError → ε) :
    (do let json ← (s.result Method.listTools none).mapError refused
        let result ← (ListToolsResult.decode json).mapError garbled
        return result.tools) = Except.ok s.listTools := by
  rw [result_listTools]
  change ((ListToolsResult.decode (ListToolsResult.encode _)).mapError garbled).bind _ = _
  rw [ListToolsResult.readsBack.reads]
  rfl

theorem result_callTool_of_read (s : Server) {value : Json} {call : ToolCall}
    (read : ToolCall.decode value = .ok call) :
    s.result Method.callTool (some value) = (s.callTool call).map ToolResult.encode := by
  rw [result,Provider.result,if_neg (by decide),if_neg (by decide),if_neg (by decide),if_pos rfl,
    params,read]
  change (s.callTool call).bind _ = _
  cases s.callTool call <;> rfl

theorem result_callTool (s : Server) (call : ToolCall) :
    s.result Method.callTool (some call.encode) = (s.callTool call).map ToolResult.encode :=
  s.result_callTool_of_read (ToolCall.readsBack.reads call)

theorem result_readResource_of_read (s : Server) {value : Json} {p : ReadResourceParams}
    (read : ReadResourceParams.decode value = .ok p) :
    s.result Method.readResource (some value) =
      (s.readResource p.uri).map ReadResourceResult.encode := by
  rw [result,Provider.result,if_neg (by decide),if_neg (by decide),if_neg (by decide),
    if_neg (by decide),if_neg (by decide),if_pos rfl,params,read]
  change (s.readResource p.uri).bind _ = _
  cases s.readResource p.uri <;> rfl

theorem result_readResource (s : Server) (uri : String) :
    s.result Method.readResource (some (ReadResourceParams.mk uri).encode) =
      (s.readResource uri).map ReadResourceResult.encode :=
  s.result_readResource_of_read (ReadResourceParams.readsBack.reads ⟨uri⟩)

/-- A resource that is held is read, and its contents are completed. -/
theorem readResource_held {s : Server} {uri : String} {x : ServedResource}
    (held : s.resources.get? uri = some x) {read : ReadResourceResult}
    (reads : x.read uri = .ok read) :
    s.readResource uri = .ok ⟨read.contents.map x.complete⟩ := by
  rw [readResource,held]
  dsimp only
  rw [reads]

/-- A client that reads a resource gets the contents as the server has completed them. -/
theorem read_readResource {ε : Type} {s : Server} {uri : String} {x : ServedResource}
    (held : s.resources.get? uri = some x) {read : ReadResourceResult} (reads : x.read uri = .ok read)
    (refused : Error → ε) (garbled : DecodeError → ε) :
    (do let json ← (s.result Method.readResource
          (some (ReadResourceParams.mk uri).encode)).mapError refused
        (ReadResourceResult.decode json).mapError garbled) =
      Except.ok ⟨read.contents.map x.complete⟩ := by
  rw [result_readResource,readResource_held held reads]
  change (ReadResourceResult.decode (ReadResourceResult.encode _)).mapError garbled = _
  rw [ReadResourceResult.readsBack.reads]
  rfl

end ToolView.Server
