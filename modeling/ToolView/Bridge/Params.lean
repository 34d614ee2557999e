import ToolView.Bridge.Context

/-! The methods of the bridge and what their messages carry. -/

namespace ToolView.Bridge

namespace Method

-- The view asks.
def handshake : String := "ui/initialize"
def ping : String := "ping"
def openLink : String := "ui/open-link"
def message : String := "ui/message"
def requestDisplayMode : String := "ui/request-display-mode"
def updateModelContext : String := "ui/update-model-context"
def callTool : String := "tools/call"
def readResource : String := "resources/read"

-- The host asks.
def teardown : String := "ui/resource-teardown"

-- The view and its sandbox tell.
def proxyReady : String := "ui/notifications/sandbox-proxy-ready"
def initialized : String := "ui/notifications/initialized"
def sizeChanged : String := "ui/notifications/size-changed"

-- The host tells.
def resourceReady : String := "ui/notifications/sandbox-resource-ready"
def toolInputPartial : String := "ui/notifications/tool-input-partial"
def toolInput : String := "ui/notifications/tool-input"
def toolResult : String := "ui/notifications/tool-result"
def toolCancelled : String := "ui/notifications/tool-cancelled"
def contextChanged : String := "ui/notifications/host-context-changed"

end Method

structure InitializeParams where
  protocolVersion : String
  appCapabilities : Option AppCapabilities
  clientInfo : Option AppInfo
  deriving DecidableEq

namespace InitializeParams

def encode (p : InitializeParams) : Json :=
  .record [("protocolVersion", some (.str p.protocolVersion)),
    ("appCapabilities", p.appCapabilities.map AppCapabilities.encode),
    ("clientInfo", p.clientInfo.map AppInfo.encode)]

def fields : Fields Json InitializeParams :=
  mk <$> .required "protocolVersion" Decode.string
    <*> .optional "appCapabilities" AppCapabilities.decode
    <*> .optional "clientInfo" AppInfo.decode

def decode : Json → Except DecodeError InitializeParams := Decode.record "UiInitializeParams" fields

instance : JsonForm InitializeParams := ⟨encode, decode⟩

end InitializeParams

structure InitializeResult where
  protocolVersion : String
  hostCapabilities : HostCapabilities
  hostInfo : AppInfo
  hostContext : Option HostContext
  deriving DecidableEq

namespace InitializeResult

def encode (r : InitializeResult) : Json :=
  .record [("protocolVersion", some (.str r.protocolVersion)),
    ("hostCapabilities", some r.hostCapabilities.encode), ("hostInfo", some r.hostInfo.encode),
    ("hostContext", r.hostContext.map HostContext.encode)]

def fields : Fields Json InitializeResult :=
  mk <$> .required "protocolVersion" Decode.string
    <*> .required "hostCapabilities" HostCapabilities.decode
    <*> .required "hostInfo" AppInfo.decode <*> .optional "hostContext" HostContext.decode

def decode : Json → Except DecodeError InitializeResult := Decode.record "UiInitializeResult" fields

instance : JsonForm InitializeResult := ⟨encode, decode⟩

end InitializeResult

structure ToolInputParams where
  arguments : Json
  deriving DecidableEq

namespace ToolInputParams

def encode (p : ToolInputParams) : Json := .record [("arguments", some p.arguments)]

def fields : Fields Json ToolInputParams := mk <$> .required "arguments" Decode.json

def decode : Json → Except DecodeError ToolInputParams := Decode.record "ToolInputParams" fields

instance : JsonForm ToolInputParams := ⟨encode, decode⟩

end ToolInputParams

structure ToolResultParams where
  content : Option (List Json)
  structuredContent : Option Json
  isError : Option Bool
  meta? : Option Json
  deriving DecidableEq

namespace ToolResultParams

def encode (p : ToolResultParams) : Json :=
  .record [("content", p.content.map .arr), ("structuredContent", p.structuredContent),
    ("isError", p.isError.map .bool), ("_meta", p.meta?)]

def fields : Fields Json ToolResultParams :=
  mk <$> .optional "content" (Decode.list Decode.json) <*> .optional "structuredContent" Decode.json
    <*> .optional "isError" Decode.bool <*> .optional "_meta" Decode.json

def decode : Json → Except DecodeError ToolResultParams := Decode.record "ToolResultParams" fields

instance : JsonForm ToolResultParams := ⟨encode, decode⟩

end ToolResultParams

structure ToolCancelledParams where
  reason : Option String
  deriving DecidableEq

namespace ToolCancelledParams

def encode (p : ToolCancelledParams) : Json := .record [("reason", p.reason.map .str)]

def fields : Fields Json ToolCancelledParams := mk <$> .optional "reason" Decode.string

def decode : Json → Except DecodeError ToolCancelledParams :=
  Decode.record "ToolCancelledParams" fields

instance : JsonForm ToolCancelledParams := ⟨encode, decode⟩

end ToolCancelledParams

structure OpenLinkParams where
  url : String
  deriving DecidableEq

namespace OpenLinkParams

def encode (p : OpenLinkParams) : Json := .record [("url", some (.str p.url))]

def fields : Fields Json OpenLinkParams := mk <$> .required "url" Decode.string

def decode : Json → Except DecodeError OpenLinkParams := Decode.record "OpenLinkParams" fields

instance : JsonForm OpenLinkParams := ⟨encode, decode⟩

end OpenLinkParams

structure MessageParams where
  role : String
  content : Json
  deriving DecidableEq

namespace MessageParams

def encode (p : MessageParams) : Json :=
  .record [("role", some (.str p.role)), ("content", some p.content)]

def fields : Fields Json MessageParams :=
  mk <$> .required "role" Decode.string <*> .required "content" Decode.json

def decode : Json → Except DecodeError MessageParams := Decode.record "MessageParams" fields

instance : JsonForm MessageParams := ⟨encode, decode⟩

end MessageParams

structure DisplayModeParams where
  mode : DisplayMode
  deriving DecidableEq

namespace DisplayModeParams

def encode (p : DisplayModeParams) : Json := .record [("mode", some p.mode.encode)]

def fields : Fields Json DisplayModeParams := mk <$> .required "mode" DisplayMode.decode

def decodeRequest : Json → Except DecodeError DisplayModeParams :=
  Decode.record "RequestDisplayModeParams" fields

def decodeResult : Json → Except DecodeError DisplayModeParams :=
  Decode.record "RequestDisplayModeResult" fields

end DisplayModeParams

structure ModelContextParams where
  content : Option (List Json)
  structuredContent : Option Json
  deriving DecidableEq

namespace ModelContextParams

def encode (p : ModelContextParams) : Json :=
  .record [("content", p.content.map .arr), ("structuredContent", p.structuredContent)]

def fields : Fields Json ModelContextParams :=
  mk <$> .optional "content" (Decode.list Decode.json) <*> .optional "structuredContent" Decode.json

def decode : Json → Except DecodeError ModelContextParams :=
  Decode.record "UpdateModelContextParams" fields

instance : JsonForm ModelContextParams := ⟨encode, decode⟩

end ModelContextParams

structure SizeChangedParams where
  width : Option Binary64
  height : Option Binary64
  deriving DecidableEq

namespace SizeChangedParams

def encode (p : SizeChangedParams) : Json :=
  .record [("width", p.width.map fun x => .num (.double x)),
    ("height", p.height.map fun x => .num (.double x))]

def fields : Fields Json SizeChangedParams :=
  mk <$> .optional "width" Decode.double <*> .optional "height" Decode.double

def decode : Json → Except DecodeError SizeChangedParams := Decode.record "SizeChangedParams" fields

instance : JsonForm SizeChangedParams := ⟨encode, decode⟩

end SizeChangedParams

structure TeardownParams where
  reason : Option String
  deriving DecidableEq

namespace TeardownParams

def encode (p : TeardownParams) : Json := .record [("reason", p.reason.map .str)]

def fields : Fields Json TeardownParams := mk <$> .optional "reason" Decode.string

def decode : Json → Except DecodeError TeardownParams :=
  Decode.record "ResourceTeardownParams" fields

instance : JsonForm TeardownParams := ⟨encode, decode⟩

end TeardownParams

structure ResourceReadyParams where
  html : String
  sandbox : Option String
  sources : Option ViewSources
  permissions : Option ViewPermissions
  deriving DecidableEq

namespace ResourceReadyParams

def encode (p : ResourceReadyParams) : Json :=
  .record [("html", some (.str p.html)), ("sandbox", p.sandbox.map .str),
    ("csp", p.sources.map ViewSources.encode),
    ("permissions", p.permissions.map ViewPermissions.encode)]

def fields : Fields Json ResourceReadyParams :=
  mk <$> .required "html" Decode.string <*> .optional "sandbox" Decode.string
    <*> .optional "csp" ViewSources.decode <*> .optional "permissions" ViewPermissions.decode

def decode : Json → Except DecodeError ResourceReadyParams :=
  Decode.record "SandboxResourceReadyParams" fields

instance : JsonForm ResourceReadyParams := ⟨encode, decode⟩

end ResourceReadyParams

end ToolView.Bridge
