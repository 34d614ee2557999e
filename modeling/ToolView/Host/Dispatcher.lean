import ToolView.Host.Plan
import ToolView.Host.Surroundings
import ToolView.View.Message

/-! Views without a bridge: each message is acknowledged, acted upon by one handler, and answered
under its id. -/

namespace ToolView

namespace Dispatcher

/-- What an action comes to: the answer of a handler if there is to be one, the messages that it
brings by itself, and what was asked. -/
structure Acted where
  outcome : Option (Except HostError Json)
  extra : List HostReply
  events : List HostEvent

def answered (outcome : Except HostError Json) (events : List HostEvent) : Acted :=
  ⟨some outcome, [], events⟩

def renderData (wishes : ViewMetadata) : List HostReply :=
  (wishes.initialRenderData.map .renderData).toList

def act (s : Surroundings) (wishes : ViewMetadata) : ViewAction → Acted
  | .tool name params =>
    let (result, events) := s.toolCall ⟨name, some params⟩
    answered (result.map ToolResult.encode) events
  | .prompt text => answered (s.handlers.prompt text) [.prompt text]
  | .link url => answered ((s.handlers.openLink url).map fun () => .null) [.openLink url]
  | .intent name params => answered (s.handlers.intent name params) [.intent name params]
  | .notify text => answered ((s.handlers.notify text).map fun () => .null) [.notify text]
  | .requestData type params =>
    answered (s.handlers.requestData type params) [.requestData type params]
  | .ready | .requestRenderData => ⟨none, renderData wishes, []⟩
  | .resize width height => ⟨none, [], [.sizeChanged width height]⟩

def replyOutcome : Except HostError Json → ReplyOutcome
  | .ok value => .response value
  | .error e => .error (.record [("message", some (.str e.message))])

def acknowledge (messageId : Option String) : List HostReply := (messageId.map .received).toList

def respond (messageId : Option String) (outcome : Option (Except HostError Json)) :
    List HostReply :=
  match messageId, outcome with
  | some id, some outcome => [.response id (replyOutcome outcome)]
  | _, _ => []

def handle (s : Surroundings) (wishes : ViewMetadata) (message : Json) :
    Except HostError (List HostReply) × List HostEvent :=
  match ViewMessage.decode message with
  | .error fault => (.error (.view (.json fault)), [])
  | .ok m =>
    let acted := act s wishes m.action
    (.ok (acknowledge m.messageId ++ acted.extra ++ respond m.messageId acted.outcome),
      acted.events)

end Dispatcher

end ToolView
