import ToolView.Decode

/-! The envelope of the messages between a server and its client, and between a host and the view
it shows: requests, their responses, notifications, and errors that answer no request. -/

namespace ToolView.Rpc

def version : String := "2.0"

inductive Id where
  | number (n : Int64)
  | text (s : String)
  deriving DecidableEq

namespace Id

def write : Id → String
  | .number n => toString n.toInt
  | .text s => s

def encode : Id → Json
  | .number n => .int64 n
  | .text s => .str s

def decode : Json → Except DecodeError Id :=
  Decode.firstOf "RequestId"
    [fun json => (Decode.int64 json).map .number, fun json => (Decode.string json).map .text]

instance : JsonForm Id := ⟨encode, decode⟩

end Id

structure ErrorData where
  code : Int32
  message : String
  data : Option Json
  deriving DecidableEq

namespace ErrorData

def parseError : Int32 := -32700
def invalidRequest : Int32 := -32600
def methodNotFound : Int32 := -32601
def invalidParams : Int32 := -32602
def internalError : Int32 := -32603
def resourceNotFound : Int32 := -32002

def plain (code : Int32) (message : String) : ErrorData := ⟨code, message, none⟩

def unknownMethod (method : String) : ErrorData :=
  plain methodNotFound ("Method not found: " ++ method)

def write (e : ErrorData) : String :=
  toString e.code.toInt ++ ": " ++ e.message ++
    (match e.data with | some data => "(" ++ data.write ++ ")" | none => "")

def members (e : ErrorData) : List (String × Option Json) :=
  [("code", some (.int32 e.code)), ("message", some (.str e.message)), ("data", e.data)]

def encode (e : ErrorData) : Json := .record e.members

def fields : Fields Json ErrorData :=
  mk <$> .required "code" Decode.int32 <*> .required "message" Decode.string
    <*> .optional "data" Decode.json

def decode : Json → Except DecodeError ErrorData := Decode.record "ErrorData" fields

instance : JsonForm ErrorData := ⟨encode, decode⟩

end ErrorData

/-- The field that names the version; a message may leave it out. -/
def versionField : Fields Json String := .withDefault "jsonrpc" Decode.string version

structure Request where
  jsonrpc : String
  id : Id
  method : String
  params : Option Json
  deriving DecidableEq

structure Response where
  jsonrpc : String
  id : Id
  result : Option Json
  error : Option ErrorData
  deriving DecidableEq

structure Notification where
  jsonrpc : String
  method : String
  params : Option Json
  deriving DecidableEq

/-- An error that answers no request, or one whose id could not be told. -/
structure Failure where
  jsonrpc : String
  id : Option Id
  error : ErrorData
  deriving DecidableEq

namespace Request

def of (id : Id) (method : String) (params : Option Json) : Request := ⟨version, id, method, params⟩

def members (r : Request) : List (String × Option Json) :=
  [("jsonrpc", some (.str r.jsonrpc)), ("id", some r.id.encode), ("method", some (.str r.method)),
    ("params", r.params)]

def encode (r : Request) : Json := .record r.members

def fields : Fields Json Request :=
  mk <$> versionField <*> .required "id" Id.decode <*> .required "method" Decode.string
    <*> .optional "params" Decode.json

def decode : Json → Except DecodeError Request := Decode.record "JsonRpcRequest" fields

instance : JsonForm Request := ⟨encode, decode⟩

end Request

namespace Response

def success (id : Id) (result : Json) : Response := ⟨version, id, some result, none⟩

def failure (id : Id) (error : ErrorData) : Response := ⟨version, id, none, some error⟩

def isError (r : Response) : Bool := r.error.isSome

def membersWith (errorJson : ErrorData → Json) (r : Response) : List (String × Option Json) :=
  [("jsonrpc", some (.str r.jsonrpc)), ("id", some r.id.encode), ("result", r.result),
    ("error", r.error.map errorJson)]

def encode (r : Response) : Json := .record (r.membersWith ErrorData.encode)

def fields : Fields Json Response :=
  mk <$> versionField <*> .required "id" Id.decode <*> .optional "result" Decode.json
    <*> .optional "error" ErrorData.decode

def decode : Json → Except DecodeError Response := Decode.record "JsonRpcResponse" fields

instance : JsonForm Response := ⟨encode, decode⟩

end Response

namespace Notification

def of (method : String) (params : Option Json) : Notification := ⟨version, method, params⟩

def members (n : Notification) : List (String × Option Json) :=
  [("jsonrpc", some (.str n.jsonrpc)), ("method", some (.str n.method)), ("params", n.params)]

def encode (n : Notification) : Json := .record n.members

def fields : Fields Json Notification :=
  mk <$> versionField <*> .required "method" Decode.string <*> .optional "params" Decode.json

def decode : Json → Except DecodeError Notification := Decode.record "JsonRpcNotification" fields

instance : JsonForm Notification := ⟨encode, decode⟩

end Notification

namespace Failure

/-- The members, with the error as it is to be written; a missing id is written as `null`. -/
def membersWith (errorJson : ErrorData → Json) (f : Failure) : List (String × Option Json) :=
  [("jsonrpc", some (.str f.jsonrpc)), ("id", some ((f.id.map Id.encode).getD .null)),
    ("error", some (errorJson f.error))]

def encode (f : Failure) : Json := .record (f.membersWith ErrorData.encode)

def fields : Fields Json Failure :=
  mk <$> versionField <*> .optional "id" Id.decode <*> .required "error" ErrorData.decode

def decode : Json → Except DecodeError Failure := Decode.record "JsonRpcError" fields

instance : JsonForm Failure := ⟨encode, decode⟩

end Failure

/-- A message. `none` is the message that says nothing. -/
inductive Message where
  | request (r : Request)
  | response (r : Response)
  | notification (n : Notification)
  | failure (f : Failure)
  | none
  deriving DecidableEq

namespace Message

def method? : Message → Option String
  | .request r => some r.method
  | .notification n => some n.method
  | _ => .none

def encode : Message → Json
  | .request r => r.encode
  | .response r => r.encode
  | .notification n => n.encode
  | .failure f => f.encode
  | .none => .null

/-- The message as one line of text: its members, and those of an error in it, in the order of
their declaration. -/
def line : Message → String
  | .request r => (Json.inOrder r.members).write
  | .response r => (Json.inOrder (r.membersWith (.inOrder ·.members))).write
  | .notification n => (Json.inOrder n.members).write
  | .failure f => (Json.inOrder (f.membersWith (.inOrder ·.members))).write
  | .none => Json.null.write

/-- Reads a message as the first kind that it fits: a request has an id and a method, a response
has an id, a notification has a method. -/
def decode : Json → Except DecodeError Message :=
  Decode.firstOf "JsonRpcMessage"
    [fun json => (Request.decode json).map .request,
      fun json => (Response.decode json).map .response,
      fun json => (Notification.decode json).map .notification,
      fun json => (Failure.decode json).map .failure,
      fun json => (Decode.unit json).map fun () => .none]

instance : JsonForm Message := ⟨encode, decode⟩

end Message

end ToolView.Rpc
