import ToolView.Rpc.Reader
import ToolView.Rpc.Writer
import ToolView.Server.Request

/-! A server's side of a conversation: one request at a time, in the order in which they come in. A
line that is no message is answered as well, and only a failure to write ends the conversation
before the input does. -/

namespace ToolView.Server

abbrev Service := Rpc.Request → Except String Rpc.Response

def Provider.service (p : Provider) : Service := fun r => .ok (p.respond r)

def service (s : Server) : Service := s.provider.service

/-- The response of a service to a request, which is an error where the service fails. -/
def Service.respond (service : Service) (r : Rpc.Request) : Rpc.Response :=
  match service r with
  | .ok response => response
  | .error text => .failure r.id (.plain Rpc.ErrorData.internalError text)

/-- The answer to what comes in: a response to a request, an error for what is no message, and
nothing to all else. -/
def reply? (service : Service) : Rpc.Item → Option Rpc.Message
  | .ok (.request r) => some (.response (service.respond r))
  | .ok (.notification _) | .ok (.response _) | .ok (.failure _) | .ok .none => none
  | .error e => some (.failure ⟨Rpc.version, none, e.errorData⟩)

def replies (service : Service) (items : List Rpc.Item) : List Rpc.Message :=
  items.filterMap (reply? service)

inductive StopError where
  | transport (cause : Rpc.TransportError)
  deriving DecidableEq

def StopError.message : StopError → String
  | .transport cause => "Transport error: " ++ cause.message

/-- Holds a conversation: answers all that comes in, until the input ends or a write fails. -/
def run (service : Service) (reader : Rpc.Reader) (writer : Rpc.Writer) :
    Except StopError Unit × Rpc.Writer :=
  let (outcome, writer) := writer.writeAll (replies service reader.items)
  (outcome.mapError .transport, writer)

end ToolView.Server
