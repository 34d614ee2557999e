import ToolView.Meta
import ToolView.View.Error

/-! The messages that a view and its host post to each other. All have one flat form: a type, the
id under which an answer is expected, and a payload whose form depends on the type. -/

namespace ToolView

structure FlatMessage where
  type : String
  messageId : Option String
  payload : Json
  deriving DecidableEq

namespace FlatMessage

def encode (m : FlatMessage) : Json :=
  .record [("type", some (.str m.type)), ("messageId", m.messageId.map .str),
    ("payload", if m.payload = .null then none else some m.payload)]

def fields : Fields Json FlatMessage :=
  mk <$> .required "type" Decode.string
    <*> .withDefault "messageId" (Decode.optional Decode.string) none
    <*> .withDefault "payload" Decode.json .null

def decode : Json → Except DecodeError FlatMessage := Decode.record "RawUiMessage" fields

instance : JsonForm FlatMessage := ⟨encode, decode⟩

end FlatMessage

inductive ViewAction where
  | tool (name : String) (params : Object)
  | prompt (text : String)
  | link (url : String)
  | intent (name : String) (params : Object)
  | notify (message : String)
  | ready
  | resize (width height : Option Binary64)
  | requestData (type : String) (params : Json)
  | requestRenderData
  deriving DecidableEq

namespace ViewAction

def type : ViewAction → String
  | .tool .. => "tool"
  | .prompt _ => "prompt"
  | .link _ => "link"
  | .intent .. => "intent"
  | .notify _ => "notify"
  | .ready => "ui-lifecycle-iframe-ready"
  | .resize .. => "ui-size-change"
  | .requestData .. => "ui-request-data"
  | .requestRenderData => "ui-request-render-data"

/-- Whether the user asks for this, and not the machinery of the view. -/
def isUserAction : ViewAction → Bool
  | .tool .. | .prompt _ | .link _ | .intent .. | .notify _ => true
  | .ready | .resize .. | .requestData .. | .requestRenderData => false

def encodeDouble (x : Binary64) : Json := .num (.double x)

def payload : ViewAction → Json
  | .tool name params =>
    .record [("toolName", some (.str name)), ("params", some (.ofObject params))]
  | .prompt text => .record [("prompt", some (.str text))]
  | .link url => .record [("url", some (.str url))]
  | .intent name params =>
    .record [("intent", some (.str name)), ("params", some (.ofObject params))]
  | .notify message => .record [("message", some (.str message))]
  | .resize width height =>
    .record [("width", width.map encodeDouble), ("height", height.map encodeDouble)]
  | .requestData type params => .record [("requestType", some (.str type)), ("params", some params)]
  | .ready | .requestRenderData => .null

def toolFields : Fields Json ViewAction :=
  .tool <$> .required "toolName" Decode.string <*> .withDefault "params" Decode.object .empty

def promptFields : Fields Json ViewAction := .prompt <$> .required "prompt" Decode.string

def linkFields : Fields Json ViewAction := .link <$> .required "url" Decode.string

def intentFields : Fields Json ViewAction :=
  .intent <$> .required "intent" Decode.string <*> .withDefault "params" Decode.object .empty

def notifyFields : Fields Json ViewAction := .notify <$> .required "message" Decode.string

def resizeFields : Fields Json ViewAction :=
  .resize <$> .optional "width" Decode.double <*> .optional "height" Decode.double

def requestDataFields : Fields Json ViewAction :=
  .requestData <$> .required "requestType" Decode.string <*> .withDefault "params" Decode.json .null

def ofPayload (type : String) (payload : Json) : Except ContentFault ViewAction :=
  let read (name : String) (fields : Fields Json ViewAction) : Except ContentFault ViewAction :=
    (Decode.record name fields payload).mapError (.badPayload type)
  match type with
  | "tool" => read "ToolPayload" toolFields
  | "prompt" => read "PromptPayload" promptFields
  | "link" => read "LinkPayload" linkFields
  | "intent" => read "IntentPayload" intentFields
  | "notify" => read "NotifyPayload" notifyFields
  | "ui-lifecycle-iframe-ready" => .ok .ready
  | "ui-size-change" => read "SizePayload" resizeFields
  | "ui-request-data" => read "RequestDataPayload" requestDataFields
  | "ui-request-render-data" => .ok .requestRenderData
  | other => .error (.unknownAction other)

end ViewAction

structure ViewMessage where
  action : ViewAction
  messageId : Option String
  deriving DecidableEq

namespace ViewMessage

def of (action : ViewAction) : ViewMessage := ⟨action, none⟩

def withId (m : ViewMessage) (id : String) : ViewMessage := { m with messageId := some id }

def flat (m : ViewMessage) : FlatMessage := ⟨m.action.type, m.messageId, m.action.payload⟩

def encode (m : ViewMessage) : Json := m.flat.encode

def decode (json : Json) : Except MessageFault ViewMessage := do
  let flat ← (FlatMessage.decode json).mapError .shape
  let action ← (ViewAction.ofPayload flat.type flat.payload).mapError .content
  return ⟨action, flat.messageId⟩

end ViewMessage

inductive ReplyOutcome where
  | response (value : Json)
  | error (value : Json)
  deriving DecidableEq

inductive HostReply where
  | received (messageId : String)
  | response (messageId : String) (outcome : ReplyOutcome)
  | renderData (data : Json)
  deriving DecidableEq

namespace HostReply

def type : HostReply → String
  | .received _ => "ui-message-received"
  | .response .. => "ui-message-response"
  | .renderData _ => "ui-lifecycle-iframe-render-data"

def flat (r : HostReply) : FlatMessage :=
  match r with
  | .received id => ⟨r.type, some id, .null⟩
  | .response id (.response value) => ⟨r.type, some id, .record [("response", some value)]⟩
  | .response id (.error value) => ⟨r.type, some id, .record [("error", some value)]⟩
  | .renderData data => ⟨r.type, none, .record [("renderData", some data)]⟩

def encode (r : HostReply) : Json := r.flat.encode

def ofFlat (flat : FlatMessage) : Except ContentFault HostReply :=
  match flat.type, flat.messageId with
  | "ui-message-received", some id => .ok (.received id)
  | "ui-message-response", some id =>
    match flat.payload.get? "error" with
    | some error => .ok (.response id (.error error))
    | none => .ok (.response id (.response ((flat.payload.get? "response").getD .null)))
  | "ui-message-received", none | "ui-message-response", none =>
    .error (.missingMessageId flat.type)
  | "ui-lifecycle-iframe-render-data", _ =>
    .ok (.renderData ((flat.payload.get? "renderData").getD .null))
  | other, _ => .error (.unknownReply other)

def decode (json : Json) : Except MessageFault HostReply := do
  let flat ← (FlatMessage.decode json).mapError .shape
  (ofFlat flat).mapError .content

end HostReply

end ToolView
