import ToolView.Protocol.Content
import ToolView.Url.Parser
import ToolView.View.Metadata
import ToolView.View.Mime

/-! Views as resources: making one from its content, and reading the content of one again. -/

namespace ToolView

def viewScheme : String := "ui://"

def isViewUri (uri : String) : Bool := Text.startsWith viewScheme uri

inductive ViewContent where
  | html (page : String)
  | url (address : String)
  | remoteDom (script : String) (framework : Framework)
  deriving DecidableEq

namespace ViewContent

def kind : ViewContent → ViewKind
  | .html _ => .html
  | .url _ => .uriList
  | .remoteDom _ framework => .remoteDom framework

def encode : ViewContent → Json
  | .html page => .record [("type", some (.str "rawHtml")), ("htmlString", some (.str page))]
  | .url address =>
    .record [("type", some (.str "externalUrl")), ("iframeUrl", some (.str address))]
  | .remoteDom script framework =>
    .record [("type", some (.str "remoteDom")), ("script", some (.str script)),
      ("framework", some framework.encode)]

/-- Reads what a name in an object stands for when it says nothing: `null` or an empty object. -/
def nothing (json : Json) : Except DecodeError Unit :=
  match json with
  | .obj [] => .ok ()
  | other => Decode.unit other

def htmlFields : Fields Json ViewContent := .html <$> .required "htmlString" Decode.string

def urlFields : Fields Json ViewContent := .url <$> .required "iframeUrl" Decode.string

def remoteDomFields : Fields Json ViewContent :=
  .remoteDom <$> .required "script" Decode.string
    <*> .withDefault "framework" (Decode.nameWith nothing Framework.names) .react

def decode : Json → Except DecodeError ViewContent :=
  Decode.tagged "UiContent"
    [("rawHtml", Decode.body "struct variant UiContent::RawHtml" htmlFields),
      ("externalUrl", Decode.body "struct variant UiContent::ExternalUrl" urlFields),
      ("remoteDom", Decode.body "struct variant UiContent::RemoteDom" remoteDomFields)]

instance : JsonForm ViewContent := ⟨encode, decode⟩

/-- The text that content is sent as, and what the author calls it. An address must be a URL, but
is sent as it was written. -/
def payload (content : ViewContent) : Except ContentFault (String × String) :=
  match content with
  | .html page => .ok (page, "htmlString")
  | .url address =>
    match Url.parse address with
    | .ok _ => .ok (address, "iframeUrl")
    | .error cause => .error (.notUrl address cause)
  | .remoteDom script _ => .ok (script, "script")

def checkedPayload (content : ViewContent) : Except ContentFault String := do
  let (text, part) ← content.payload
  if (Text.trim text.toList).isEmpty then throw (.empty part) else return text

end ViewContent

inductive ViewEncoding where
  | text
  | blob
  deriving DecidableEq

namespace ViewEncoding

def names : List (String × ViewEncoding) := [("text", .text), ("blob", .blob)]

def encode : ViewEncoding → Json
  | .text => .str "text"
  | .blob => .str "blob"

def decode : Json → Except DecodeError ViewEncoding := Decode.name names

instance : JsonForm ViewEncoding := ⟨encode, decode⟩

end ViewEncoding

structure ViewProps where
  title : Option String
  description : Option String
  deriving DecidableEq

namespace ViewProps

def none : ViewProps := ⟨.none, .none⟩

def members (p : ViewProps) : List (String × Option Json) :=
  [("title", p.title.map .str), ("description", p.description.map .str)]

def encode (p : ViewProps) : Json := .record p.members

def fields : Fields Json ViewProps :=
  mk <$> .optional "title" Decode.string <*> .optional "description" Decode.string

def decode : Json → Except DecodeError ViewProps := Decode.record "ResourceProps" fields

instance : JsonForm ViewProps := ⟨encode, decode⟩

end ViewProps

structure ViewResource where
  resource : Contents
  props : ViewProps
  deriving DecidableEq

namespace ViewResource

def typeNames : List (String × Unit) := [("resource", ())]

def encode (r : ViewResource) : Json :=
  .record (("type", some (.str "resource")) :: ("resource", some r.resource.encode) ::
    r.props.members)

def fields : Fields Json Contents :=
  (fun () resource => resource) <$> .required "type" (Decode.name typeNames)
    <*> .required "resource" Contents.decode

/-- Reads a view. Its name stands among its other members, and is read after them. -/
def decode (json : Json) : Except DecodeError ViewResource := do
  let members ← Decode.membersOf "struct UiResource" json
  let resource ← fields.readMembers members
  return ⟨resource, ← ViewProps.fields.readMembers members⟩

instance : JsonForm ViewResource := ⟨encode, decode⟩

def metadata (r : ViewResource) : ViewMetadata := ViewMetadata.ofMeta? r.resource.meta?

def toContent (r : ViewResource) : Content := .ofContents r.resource

end ViewResource

def Contents.decodedText (c : Contents) : Except ViewError String :=
  match c.body with
  | .text text => .ok text
  | .blob base64 =>
    match Base64.decode (Utf8.encode (Text.trim base64.toList)) with
    | .error cause => .error (.base64 cause)
    | .ok bytes =>
      match Utf8.decode bytes with
      | .error cause => .error (.utf8 cause)
      | .ok text => .ok (String.ofList text)

def encodeBlob (text : String) : String :=
  String.ofList ((Base64.encode (Utf8.encode text.toList)).map fun b => Char.ofNat b.toNat)

structure NewView where
  uri : String
  content : ViewContent
  encoding : ViewEncoding
  wishes : ViewMetadata
  metadata : Meta
  props : ViewProps
  deriving DecidableEq

namespace NewView

/-- The metadata of the resource: the wishes, and all else under keys that they do not use. -/
def resourceMeta (n : NewView) : Option Meta := (n.wishes.toMeta.extendMissing n.metadata).nonempty?

def create (n : NewView) : Except ViewError ViewResource :=
  if !isViewUri n.uri then .error (.invalidUri n.uri) else
  match n.content.checkedPayload with
  | .error fault => .error (.invalidContent fault)
  | .ok payload =>
    let body := match n.encoding with
      | .text => Contents.Body.text payload
      | .blob => Contents.Body.blob (encodeBlob payload)
    .ok ⟨⟨n.uri, some n.content.kind.mimeType, body, n.resourceMeta⟩, n.props⟩

end NewView

end ToolView
