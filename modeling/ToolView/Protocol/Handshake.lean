import ToolView.Meta

/-! What a client and a server tell each other first: versions, names and capabilities. -/

namespace ToolView

def latestServerVersion : String := "2025-06-18"

def serverVersions : List String := ["2024-11-05", "2025-03-26", latestServerVersion]

def negotiateServerVersion (requested : Option String) : String :=
  match requested with
  | some version => if version ∈ serverVersions then version else latestServerVersion
  | none => latestServerVersion

structure ToolsCapability where
  listChanged : Option Bool
  deriving DecidableEq

namespace ToolsCapability

def encode (c : ToolsCapability) : Json := .record [("listChanged", c.listChanged.map .bool)]

def fields : Fields Json ToolsCapability := mk <$> .optional "listChanged" Decode.bool

def decode : Json → Except DecodeError ToolsCapability := Decode.record "ToolsCapability" fields

instance : JsonForm ToolsCapability := ⟨encode, decode⟩

end ToolsCapability

structure ResourcesCapability where
  subscribe : Option Bool
  listChanged : Option Bool
  deriving DecidableEq

namespace ResourcesCapability

def encode (c : ResourcesCapability) : Json :=
  .record [("subscribe", c.subscribe.map .bool), ("listChanged", c.listChanged.map .bool)]

def fields : Fields Json ResourcesCapability :=
  mk <$> .optional "subscribe" Decode.bool <*> .optional "listChanged" Decode.bool

def decode : Json → Except DecodeError ResourcesCapability :=
  Decode.record "ResourcesCapability" fields

instance : JsonForm ResourcesCapability := ⟨encode, decode⟩

end ResourcesCapability

structure ServerCapabilities where
  tools : Option ToolsCapability
  resources : Option ResourcesCapability
  experimental : Option Object
  deriving DecidableEq

namespace ServerCapabilities

def none : ServerCapabilities := ⟨.none, .none, .none⟩

def withTools (c : ServerCapabilities) (listChanged : Bool) : ServerCapabilities :=
  { c with tools := some ⟨some listChanged⟩ }

def withResources (c : ServerCapabilities) (subscribe listChanged : Bool) : ServerCapabilities :=
  { c with resources := some ⟨some subscribe, some listChanged⟩ }

def withExtension (c : ServerCapabilities) (id : String) (settings : Json) : ServerCapabilities :=
  { c with experimental := some ((c.experimental.getD .empty).insert id settings) }

def encode (c : ServerCapabilities) : Json :=
  .record [("tools", c.tools.map ToolsCapability.encode),
    ("resources", c.resources.map ResourcesCapability.encode),
    ("experimental", c.experimental.map .ofObject)]

def fields : Fields Json ServerCapabilities :=
  mk <$> .optional "tools" ToolsCapability.decode
    <*> .optional "resources" ResourcesCapability.decode
    <*> .optional "experimental" Decode.object

def decode : Json → Except DecodeError ServerCapabilities :=
  Decode.record "ServerCapabilities" fields

instance : JsonForm ServerCapabilities := ⟨encode, decode⟩

end ServerCapabilities

structure Implementation where
  name : String
  version : String
  title : Option String
  deriving DecidableEq

namespace Implementation

def encode (i : Implementation) : Json :=
  .record [("name", some (.str i.name)), ("version", some (.str i.version)),
    ("title", i.title.map .str)]

def fields : Fields Json Implementation :=
  mk <$> .required "name" Decode.string <*> .required "version" Decode.string
    <*> .optional "title" Decode.string

def decode : Json → Except DecodeError Implementation := Decode.record "Implementation" fields

instance : JsonForm Implementation := ⟨encode, decode⟩

end Implementation

structure InitializeParams where
  protocolVersion : Option String
  capabilities : Option Json
  clientInfo : Option Implementation
  deriving DecidableEq

namespace InitializeParams

def encode (p : InitializeParams) : Json :=
  .record [("protocolVersion", p.protocolVersion.map .str), ("capabilities", p.capabilities),
    ("clientInfo", p.clientInfo.map Implementation.encode)]

def fields : Fields Json InitializeParams :=
  mk <$> .optional "protocolVersion" Decode.string <*> .optional "capabilities" Decode.json
    <*> .optional "clientInfo" Implementation.decode

def decode : Json → Except DecodeError InitializeParams :=
  Decode.record "InitializeRequestParams" fields

instance : JsonForm InitializeParams := ⟨encode, decode⟩

end InitializeParams

structure InitializeResult where
  protocolVersion : String
  capabilities : ServerCapabilities
  serverInfo : Implementation
  instructions : Option String
  deriving DecidableEq

namespace InitializeResult

def encode (r : InitializeResult) : Json :=
  .record [("protocolVersion", some (.str r.protocolVersion)),
    ("capabilities", some r.capabilities.encode), ("serverInfo", some r.serverInfo.encode),
    ("instructions", r.instructions.map .str)]

def fields : Fields Json InitializeResult :=
  mk <$> .required "protocolVersion" Decode.string
    <*> .required "capabilities" ServerCapabilities.decode
    <*> .required "serverInfo" Implementation.decode <*> .optional "instructions" Decode.string

def decode : Json → Except DecodeError InitializeResult := Decode.record "InitializeResult" fields

instance : JsonForm InitializeResult := ⟨encode, decode⟩

end InitializeResult

end ToolView
