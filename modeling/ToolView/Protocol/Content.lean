import ToolView.Protocol.Resource

/-! The blocks of content that a tool answers with. -/

namespace ToolView

structure TextBlock where
  text : String
  meta? : Option Meta
  deriving DecidableEq

namespace TextBlock

def members (b : TextBlock) : List (String × Option Json) :=
  [("text", some (.str b.text)), ("_meta", b.meta?.map .ofObject)]

def encode (b : TextBlock) : Json := .record b.members

def fields : Fields Json TextBlock :=
  mk <$> .required "text" Decode.string <*> .optional "_meta" Decode.object

def decode : Json → Except DecodeError TextBlock := Decode.record "RawTextContent" fields

instance : JsonForm TextBlock := ⟨encode, decode⟩

end TextBlock

structure ImageBlock where
  data : String
  mimeType : String
  meta? : Option Meta
  deriving DecidableEq

namespace ImageBlock

def members (b : ImageBlock) : List (String × Option Json) :=
  [("data", some (.str b.data)), ("mimeType", some (.str b.mimeType)),
    ("_meta", b.meta?.map .ofObject)]

def encode (b : ImageBlock) : Json := .record b.members

def fields : Fields Json ImageBlock :=
  mk <$> .required "data" Decode.string <*> .required "mimeType" Decode.string
    <*> .optional "_meta" Decode.object

def decode : Json → Except DecodeError ImageBlock := Decode.record "RawImageContent" fields

instance : JsonForm ImageBlock := ⟨encode, decode⟩

end ImageBlock

structure ResourceBlock where
  meta? : Option Meta
  resource : Contents
  deriving DecidableEq

namespace ResourceBlock

def members (b : ResourceBlock) : List (String × Option Json) :=
  [("_meta", b.meta?.map .ofObject), ("resource", some b.resource.encode)]

def encode (b : ResourceBlock) : Json := .record b.members

def fields : Fields Json ResourceBlock :=
  mk <$> .optional "_meta" Decode.object <*> .required "resource" Contents.decode

def decode : Json → Except DecodeError ResourceBlock := Decode.record "RawEmbeddedResource" fields

instance : JsonForm ResourceBlock := ⟨encode, decode⟩

end ResourceBlock

inductive Content where
  | text (block : TextBlock)
  | image (block : ImageBlock)
  | resource (block : ResourceBlock)
  | link (resource : Resource)
  deriving DecidableEq

namespace Content

def ofText (text : String) : Content := .text ⟨text, none⟩

def ofImage (data mimeType : String) : Content := .image ⟨data, mimeType, none⟩

def ofContents (contents : Contents) : Content := .resource ⟨none, contents⟩

def ofJson (json : Json) : Content := ofText json.write

def text? : Content → Option TextBlock
  | .text block => some block
  | _ => none

def resource? : Content → Option ResourceBlock
  | .resource block => some block
  | _ => none

def tag : Content → String
  | .text _ => "text"
  | .image _ => "image"
  | .resource _ => "resource"
  | .link _ => "resource_link"

def members : Content → List (String × Option Json)
  | .text b => b.members
  | .image b => b.members
  | .resource b => b.members
  | .link r => r.members

def encode (c : Content) : Json := .record (("type", some (.str c.tag)) :: c.members)

def decode : Json → Except DecodeError Content :=
  Decode.tagged "Content"
    [("text", fun b => .text <$> Decode.body "struct RawTextContent" TextBlock.fields b),
      ("image", fun b => .image <$> Decode.body "struct RawImageContent" ImageBlock.fields b),
      ("resource",
        fun b => .resource <$> Decode.body "struct RawEmbeddedResource" ResourceBlock.fields b),
      ("resource_link", fun b => .link <$> Decode.body "struct RawResource" Resource.fields b)]

instance : JsonForm Content := ⟨encode, decode⟩

end Content

end ToolView
