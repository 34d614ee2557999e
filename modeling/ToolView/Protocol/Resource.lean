import ToolView.Meta

/-! Resources: how a server lists them, and what reading one gives. -/

namespace ToolView

structure Resource where
  uri : String
  name : String
  title : Option String
  description : Option String
  mimeType : Option String
  size : Option UInt32
  meta? : Option Meta
  deriving DecidableEq

namespace Resource

def named (uri name : String) : Resource := ⟨uri, name, none, none, none, none, none⟩

def members (r : Resource) : List (String × Option Json) :=
  [("uri", some (.str r.uri)), ("name", some (.str r.name)), ("title", r.title.map .str),
    ("description", r.description.map .str), ("mimeType", r.mimeType.map .str),
    ("size", r.size.map .uint32), ("_meta", r.meta?.map .ofObject)]

def encode (r : Resource) : Json := .record r.members

def fields : Fields Json Resource :=
  mk <$> .required "uri" Decode.string <*> .required "name" Decode.string
    <*> .optional "title" Decode.string <*> .optional "description" Decode.string
    <*> .optional "mimeType" Decode.string <*> .optional "size" Decode.uint32
    <*> .optional "_meta" Decode.object

def decode : Json → Except DecodeError Resource := Decode.record "RawResource" fields

instance : JsonForm Resource := ⟨encode, decode⟩

end Resource

inductive Contents.Body where
  | text (text : String)
  | blob (base64 : String)
  deriving DecidableEq

structure Contents where
  uri : String
  mimeType : Option String
  body : Contents.Body
  meta? : Option Meta
  deriving DecidableEq

namespace Contents

def text (uri mimeType text : String) : Contents := ⟨uri, some mimeType, .text text, none⟩

def withMeta (c : Contents) (m : Meta) : Contents := { c with meta? := some m }

def withDefaultMimeType (c : Contents) (mimeType : String) : Contents :=
  { c with mimeType := some (c.mimeType.getD mimeType) }

def encode (c : Contents) : Json :=
  .record [("uri", some (.str c.uri)), ("mimeType", c.mimeType.map .str),
    (match c.body with
      | .text text => ("text", some (.str text))
      | .blob base64 => ("blob", some (.str base64))),
    ("_meta", c.meta?.map .ofObject)]

def fields (name : String) (body : String → Body) : Fields Json Contents :=
  (fun uri mimeType text meta? => ⟨uri, mimeType, body text, meta?⟩)
    <$> .required "uri" Decode.string <*> .optional "mimeType" Decode.string
    <*> .required name Decode.string <*> .optional "_meta" Decode.object

def decodeAs (name : String) (body : String → Body) (json : Json) :
    Except DecodeError Contents := do
  (fields name body).readMembers (← Decode.membersOf "contents" json)

/-- Reads contents: text where they fit it, bytes otherwise. -/
def decode : Json → Except DecodeError Contents :=
  Decode.firstOf "ResourceContents" [decodeAs "text" .text, decodeAs "blob" .blob]

instance : JsonForm Contents := ⟨encode, decode⟩

end Contents

structure ReadResourceParams where
  uri : String
  deriving DecidableEq

namespace ReadResourceParams

def encode (p : ReadResourceParams) : Json := .record [("uri", some (.str p.uri))]

def fields : Fields Json ReadResourceParams := mk <$> .required "uri" Decode.string

def decode : Json → Except DecodeError ReadResourceParams :=
  Decode.record "ReadResourceRequestParams" fields

instance : JsonForm ReadResourceParams := ⟨encode, decode⟩

end ReadResourceParams

structure ReadResourceResult where
  contents : List Contents
  deriving DecidableEq

namespace ReadResourceResult

def encode (r : ReadResourceResult) : Json :=
  .record [("contents", some (.arr (r.contents.map Contents.encode)))]

def fields : Fields Json ReadResourceResult :=
  mk <$> .required "contents" (Decode.list Contents.decode)

def decode : Json → Except DecodeError ReadResourceResult :=
  Decode.record "ReadResourceResult" fields

instance : JsonForm ReadResourceResult := ⟨encode, decode⟩

end ReadResourceResult

structure ListResourcesResult where
  resources : List Resource
  nextCursor : Option String
  deriving DecidableEq

namespace ListResourcesResult

def encode (r : ListResourcesResult) : Json :=
  .record [("resources", some (.arr (r.resources.map Resource.encode))),
    ("nextCursor", r.nextCursor.map .str)]

def fields : Fields Json ListResourcesResult :=
  mk <$> .required "resources" (Decode.list Resource.decode)
    <*> .optional "nextCursor" Decode.string

def decode : Json → Except DecodeError ListResourcesResult :=
  Decode.record "ListResourcesResult" fields

instance : JsonForm ListResourcesResult := ⟨encode, decode⟩

end ListResourcesResult

end ToolView
