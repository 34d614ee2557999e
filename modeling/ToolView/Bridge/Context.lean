import ToolView.View.Needs

/-! What the two ends of the bridge say about themselves: the app in the view, the host, and the
surroundings that the host shows the view in. -/

namespace ToolView.Bridge

def latestVersion : String := "2025-11-21"

def versions : List String := ["2025-06-18", latestVersion]

def negotiateVersion (requested : String) : String :=
  if requested ∈ versions then requested else latestVersion

structure AppInfo where
  name : String
  version : String
  deriving DecidableEq

namespace AppInfo

def encode (i : AppInfo) : Json :=
  .record [("name", some (.str i.name)), ("version", some (.str i.version))]

def fields {ν : Type} [Tree ν] : Fields ν AppInfo :=
  mk <$> .required "name" Decode.string <*> .required "version" Decode.string

def decode {ν : Type} [Tree ν] : ν → Except DecodeError AppInfo := Decode.record "AppInfo" fields

instance : JsonForm AppInfo := ⟨encode, decode⟩

end AppInfo

structure AppCapabilities where
  experimental : Option Json
  tools : Option Json
  availableDisplayModes : Option (List DisplayMode)
  deriving DecidableEq

namespace AppCapabilities

def encode (c : AppCapabilities) : Json :=
  .record [("experimental", c.experimental), ("tools", c.tools),
    ("availableDisplayModes",
      c.availableDisplayModes.map fun ms => .arr (ms.map DisplayMode.encode))]

def fields : Fields Json AppCapabilities :=
  mk <$> .optional "experimental" Decode.json <*> .optional "tools" Decode.json
    <*> .optional "availableDisplayModes" (Decode.list DisplayMode.decode)

def decode : Json → Except DecodeError AppCapabilities :=
  Decode.record "McpUiAppCapabilities" fields

instance : JsonForm AppCapabilities := ⟨encode, decode⟩

end AppCapabilities

structure HostCapabilities where
  openLinks : Option Object
  serverTools : Option Object
  serverResources : Option Object
  logging : Option Object
  deriving DecidableEq

namespace HostCapabilities

def encode (c : HostCapabilities) : Json :=
  .record [("openLinks", c.openLinks.map .ofObject), ("serverTools", c.serverTools.map .ofObject),
    ("serverResources", c.serverResources.map .ofObject), ("logging", c.logging.map .ofObject)]

def fields : Fields Json HostCapabilities :=
  mk <$> .optional "openLinks" Decode.object <*> .optional "serverTools" Decode.object
    <*> .optional "serverResources" Decode.object <*> .optional "logging" Decode.object

def decode : Json → Except DecodeError HostCapabilities := Decode.record "HostCapabilities" fields

instance : JsonForm HostCapabilities := ⟨encode, decode⟩

end HostCapabilities

structure HostContext where
  toolInfo : Option Json
  theme : Option String
  displayMode : Option DisplayMode
  availableDisplayModes : Option (List DisplayMode)
  containerDimensions : Option Json
  locale : Option String
  timeZone : Option String
  platform : Option String
  deriving DecidableEq

namespace HostContext

def encode (c : HostContext) : Json :=
  .record [("toolInfo", c.toolInfo), ("theme", c.theme.map .str),
    ("displayMode", c.displayMode.map DisplayMode.encode),
    ("availableDisplayModes",
      c.availableDisplayModes.map fun ms => .arr (ms.map DisplayMode.encode)),
    ("containerDimensions", c.containerDimensions), ("locale", c.locale.map .str),
    ("timeZone", c.timeZone.map .str), ("platform", c.platform.map .str)]

def fields : Fields Json HostContext :=
  mk <$> .optional "toolInfo" Decode.json <*> .optional "theme" Decode.string
    <*> .optional "displayMode" DisplayMode.decode
    <*> .optional "availableDisplayModes" (Decode.list DisplayMode.decode)
    <*> .optional "containerDimensions" Decode.json <*> .optional "locale" Decode.string
    <*> .optional "timeZone" Decode.string <*> .optional "platform" Decode.string

def decode : Json → Except DecodeError HostContext := Decode.record "HostContext" fields

instance : JsonForm HostContext := ⟨encode, decode⟩

end HostContext

end ToolView.Bridge
