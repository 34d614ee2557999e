import ToolView.Protocol.Content

/-! Tools: how a server describes them, how a client calls them, and what they answer. -/

namespace ToolView

structure ToolAnnotations where
  title : Option String
  readOnlyHint : Option Bool
  destructiveHint : Option Bool
  idempotentHint : Option Bool
  openWorldHint : Option Bool
  deriving DecidableEq

namespace ToolAnnotations

def readOnly (a : ToolAnnotations) (flag : Bool) : ToolAnnotations :=
  { a with readOnlyHint := some flag }

def encode (a : ToolAnnotations) : Json :=
  .record [("title", a.title.map .str), ("readOnlyHint", a.readOnlyHint.map .bool),
    ("destructiveHint", a.destructiveHint.map .bool),
    ("idempotentHint", a.idempotentHint.map .bool), ("openWorldHint", a.openWorldHint.map .bool)]

def fields : Fields Json ToolAnnotations :=
  mk <$> .optional "title" Decode.string <*> .optional "readOnlyHint" Decode.bool
    <*> .optional "destructiveHint" Decode.bool <*> .optional "idempotentHint" Decode.bool
    <*> .optional "openWorldHint" Decode.bool

def decode : Json → Except DecodeError ToolAnnotations := Decode.record "ToolAnnotations" fields

instance : JsonForm ToolAnnotations := ⟨encode, decode⟩

end ToolAnnotations

structure Tool where
  name : String
  title : Option String
  description : Option String
  inputSchema : Object
  outputSchema : Option Object
  annotations : Option ToolAnnotations
  meta? : Option Meta
  deriving DecidableEq

namespace Tool

def emptySchema : Object :=
  .ofList [("type", .str "object"), ("properties", .ofObject .empty)]

def of (name description : String) (inputSchema : Object) : Tool :=
  ⟨name, none, some description, inputSchema, none, none, none⟩

def encode (t : Tool) : Json :=
  .record [("name", some (.str t.name)), ("title", t.title.map .str),
    ("description", t.description.map .str), ("inputSchema", some (.ofObject t.inputSchema)),
    ("outputSchema", t.outputSchema.map .ofObject),
    ("annotations", t.annotations.map ToolAnnotations.encode), ("_meta", t.meta?.map .ofObject)]

def fields : Fields Json Tool :=
  mk <$> .required "name" Decode.string <*> .optional "title" Decode.string
    <*> .optional "description" Decode.string <*> .required "inputSchema" Decode.object
    <*> .optional "outputSchema" Decode.object
    <*> .optional "annotations" ToolAnnotations.decode <*> .optional "_meta" Decode.object

def decode : Json → Except DecodeError Tool := Decode.record "Tool" fields

instance : JsonForm Tool := ⟨encode, decode⟩

end Tool

structure ToolCall where
  name : String
  arguments : Option Object
  deriving DecidableEq

namespace ToolCall

def encode (c : ToolCall) : Json :=
  .record [("name", some (.str c.name)), ("arguments", c.arguments.map .ofObject)]

def fields : Fields Json ToolCall :=
  mk <$> .required "name" Decode.string <*> .optional "arguments" Decode.object

def decode : Json → Except DecodeError ToolCall := Decode.record "CallToolRequestParams" fields

instance : JsonForm ToolCall := ⟨encode, decode⟩

end ToolCall

structure ToolResult where
  content : List Content
  structuredContent : Option Json
  isError? : Option Bool
  meta? : Option Meta
  deriving DecidableEq

namespace ToolResult

def success (content : List Content) : ToolResult := ⟨content, none, some false, none⟩

def failure (content : List Content) : ToolResult := ⟨content, none, some true, none⟩

def isError (r : ToolResult) : Bool := r.isError?.getD false

def encode (r : ToolResult) : Json :=
  .record [("content", some (.arr (r.content.map Content.encode))),
    ("structuredContent", r.structuredContent), ("isError", r.isError?.map .bool),
    ("_meta", r.meta?.map .ofObject)]

def fields : Fields Json ToolResult :=
  mk <$> .withDefault "content" (Decode.list Content.decode) []
    <*> .optional "structuredContent" Decode.json <*> .optional "isError" Decode.bool
    <*> .optional "_meta" Decode.object

def decode : Json → Except DecodeError ToolResult := Decode.record "CallToolResult" fields

instance : JsonForm ToolResult := ⟨encode, decode⟩

end ToolResult

structure ListToolsResult where
  tools : List Tool
  nextCursor : Option String
  deriving DecidableEq

namespace ListToolsResult

def encode (r : ListToolsResult) : Json :=
  .record [("tools", some (.arr (r.tools.map Tool.encode))), ("nextCursor", r.nextCursor.map .str)]

def fields : Fields Json ListToolsResult :=
  mk <$> .required "tools" (Decode.list Tool.decode) <*> .optional "nextCursor" Decode.string

def decode : Json → Except DecodeError ListToolsResult := Decode.record "ListToolsResult" fields

instance : JsonForm ListToolsResult := ⟨encode, decode⟩

end ListToolsResult

end ToolView
