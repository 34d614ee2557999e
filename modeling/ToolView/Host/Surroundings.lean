import ToolView.Bridge.Params
import ToolView.Host.Error
import ToolView.Protocol.Tool

/-! What surrounds the host's end of a view: the client that talks to the server, and the handlers
that act for the user. Both are answers to questions; whatever is asked is recorded as an event,
in order, so that what the host does can be told from what it says. -/

namespace ToolView

inductive HostEvent where
  | listTools
  | callTool (call : ToolCall)
  | readResource (uri : String)
  | openLink (url : String)
  | message (params : Bridge.MessageParams)
  | prompt (text : String)
  | intent (name : String) (params : Object)
  | notify (text : String)
  | toolCall (call : ToolCall)
  | sizeChanged (width height : Option Binary64)
  | displayMode (mode : DisplayMode)
  | modelContext (params : Bridge.ModelContextParams)
  | requestData (type : String) (params : Json)
  deriving DecidableEq

def HostEvent.isForClient : HostEvent → Bool
  | .listTools | .callTool _ | .readResource _ => true
  | _ => false

structure Client where
  listTools : Except HostError (List Tool)
  callTool : ToolCall → Except HostError ToolResult
  readResource : String → Except HostError ReadResourceResult

/-- What a handler does with the client before it has a result. -/
inductive Conversation (α : Type) where
  | done (result : Except HostError α)
  | listTools (next : Except HostError (List Tool) → Conversation α)
  | callTool (call : ToolCall) (next : Except HostError ToolResult → Conversation α)
  | readResource (uri : String) (next : Except HostError ReadResourceResult → Conversation α)

def Conversation.run {α : Type} (client : Client) :
    Conversation α → Except HostError α × List HostEvent
  | .done result => (result, [])
  | .listTools next =>
    let (result, events) := (next client.listTools).run client
    (result, .listTools :: events)
  | .callTool call next =>
    let (result, events) := (next (client.callTool call)).run client
    (result, .callTool call :: events)
  | .readResource uri next =>
    let (result, events) := (next (client.readResource uri)).run client
    (result, .readResource uri :: events)

structure Handlers where
  openLink : String → Except HostError Unit
  message : Bridge.MessageParams → Except HostError Unit
  prompt : String → Except HostError Json
  intent : String → Object → Except HostError Json
  notify : String → Except HostError Unit
  toolCall : ToolCall → Conversation ToolResult
  displayMode : DisplayMode → Option DisplayMode
  modelContext : Bridge.ModelContextParams → Except HostError Unit
  requestData : String → Json → Except HostError Json

/-- Handlers that pass tool calls to the server, take notice of notifications, and refuse all
else. -/
def Handlers.default : Handlers where
  openLink _ := .error (.unsupported "open link")
  message _ := .error (.unsupported "message")
  prompt _ := .error (.unsupported "prompt")
  intent name _ := .error (.unsupported ("intent " ++ name))
  notify _ := .ok ()
  toolCall call := .callTool call .done
  displayMode _ := none
  modelContext _ := .error (.unsupported "model context updates")
  requestData type _ := .error (.unsupported ("data request " ++ type))

structure Surroundings where
  client : Client
  handlers : Handlers

namespace Surroundings

def toolCall (s : Surroundings) (call : ToolCall) : Except HostError ToolResult × List HostEvent :=
  let (result, events) := (s.handlers.toolCall call).run s.client
  (result, .toolCall call :: events)

end Surroundings

end ToolView
