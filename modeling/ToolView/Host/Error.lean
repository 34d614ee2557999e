import ToolView.Rpc
import ToolView.View.Error

/-! What goes wrong on the host's side, and how a view is told. -/

namespace ToolView

/-- Why the host cannot do something. Much of it is put into words by others, such as the client
that talks to the server. -/
inductive HostError where
  | client (text : String)
  | toolNotFound (name : String)
  | noViewResource (tool : String)
  | invalidResource (text : String)
  | unsupported (what : String)
  | config (text : String)
  | view (cause : ViewError)
  | json (text : String)
  deriving DecidableEq

namespace HostError

def message : HostError → String
  | .client text => "MCP client error: " ++ text
  | .toolNotFound name => "Tool not found: " ++ name
  | .noViewResource tool => "Tool " ++ tool ++ " has no UI resource"
  | .invalidResource text => "Invalid UI resource: " ++ text
  | .unsupported what => "Unsupported by this host: " ++ what
  | .config text => "Invalid configuration: " ++ text
  | .view cause => cause.message
  | .json text => "JSON error: " ++ text

def errorData (e : HostError) : Rpc.ErrorData :=
  let code := match e with
    | .unsupported _ => Rpc.ErrorData.methodNotFound
    | .toolNotFound _ | .json _ => Rpc.ErrorData.invalidParams
    | _ => Rpc.ErrorData.internalError
  .plain code e.message

end HostError

end ToolView
