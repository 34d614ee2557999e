import ToolView.Bridge.Context
import ToolView.Host.Error
import ToolView.Url.Parser

/-! The settings of a host. They are read from JSON text, field by field in the order of the text;
then the address of the sandbox must be one of the web, and at least one display mode offered. -/

namespace ToolView

namespace Decode

def url {ν : Type} [Tree ν] (tree : ν) : Except DecodeError Url := do
  match ← Tree.shape tree with
  | .str text =>
    match Url.parse text with
    | .ok url => return url
    | .error cause => throw (.invalidUrl cause text)
  | other => throw (.invalidType other.found "a string representing an URL")

end Decode

structure SandboxConfig where
  url : Url
  sandboxTokens : List String
  permissionsPolicy : Option String
  deriving DecidableEq

namespace SandboxConfig

def defaultTokens : List String := ["allow-scripts", "allow-same-origin", "allow-forms"]

def validate (c : SandboxConfig) : Except HostError Unit :=
  if c.url.scheme = "http" ∨ c.url.scheme = "https" then .ok ()
  else .error (.config
    ("sandbox proxy URL must be http(s), got " ++ c.url.scheme ++ ": " ++ c.url.write))

def ofUrl (url : Url) : Except HostError SandboxConfig :=
  let config : SandboxConfig := ⟨url, defaultTokens, none⟩
  config.validate.map fun () => config

def sandboxAttribute (c : SandboxConfig) : String := " ".intercalate c.sandboxTokens

def encode (c : SandboxConfig) : Json :=
  .record [("url", some (.str c.url.write)), ("sandboxTokens", some (.strings c.sandboxTokens)),
    ("permissionsPolicy", c.permissionsPolicy.map .str)]

def fields {ν : Type} [Tree ν] : Fields ν SandboxConfig :=
  mk <$> .required "url" Decode.url
    <*> .withDefault "sandboxTokens" (Decode.list Decode.string) defaultTokens
    <*> .withDefault "permissionsPolicy" (Decode.optional Decode.string) none

def decode {ν : Type} [Tree ν] : ν → Except DecodeError SandboxConfig :=
  Decode.record "SandboxConfig" fields

instance : JsonForm SandboxConfig := ⟨encode, decode⟩

end SandboxConfig

structure HostConfig where
  hostInfo : Bridge.AppInfo
  protocolVersion : String
  theme : Option String
  locale : Option String
  timeZone : Option String
  platform : Option String
  displayModes : List DisplayMode
  sandbox : SandboxConfig
  deriving DecidableEq

namespace HostConfig

def of (hostInfo : Bridge.AppInfo) (sandbox : SandboxConfig) : HostConfig :=
  ⟨hostInfo, Bridge.latestVersion, none, none, none, none, [.inline], sandbox⟩

def encode (c : HostConfig) : Json :=
  .record [("hostInfo", some c.hostInfo.encode), ("protocolVersion", some (.str c.protocolVersion)),
    ("theme", c.theme.map .str), ("locale", c.locale.map .str), ("timeZone", c.timeZone.map .str),
    ("platform", c.platform.map .str),
    ("displayModes", some (.arr (c.displayModes.map DisplayMode.encode))),
    ("sandbox", some c.sandbox.encode)]

def textField {ν : Type} [Tree ν] (name : String) : Fields ν (Option String) :=
  .withDefault name (Decode.optional Decode.string) none

def fields {ν : Type} [Tree ν] : Fields ν HostConfig :=
  mk <$> .required "hostInfo" Bridge.AppInfo.decode
    <*> .withDefault "protocolVersion" Decode.string Bridge.latestVersion
    <*> textField "theme" <*> textField "locale" <*> textField "timeZone" <*> textField "platform"
    <*> .withDefault "displayModes" (Decode.list DisplayMode.decode) [.inline]
    <*> .required "sandbox" SandboxConfig.decode

def decode {ν : Type} [Tree ν] : ν → Except DecodeError HostConfig :=
  Decode.record "HostConfig" fields

instance : JsonForm HostConfig := ⟨encode, decode⟩

def ofChars (chars : List Char) : Except DecodeError HostConfig := do
  let (draft, trailing) := Json.Draft.read chars
  let config ← decode draft
  if trailing then throw .malformed else return config

def validate (c : HostConfig) : Except HostError Unit := do
  c.sandbox.validate
  if c.displayModes.isEmpty then throw (.config "displayModes must not be empty")

def ofText (text : String) : Except HostError HostConfig := do
  let config ← (ofChars text.toList).mapError fun e => .json e.message
  config.validate
  return config

def initialDisplayMode (c : HostConfig) : DisplayMode := c.displayModes.head?.getD .inline

theorem initialDisplayMode_mem {c : HostConfig} (some : c.displayModes ≠ []) :
    c.initialDisplayMode ∈ c.displayModes := by
  rw [initialDisplayMode, List.head?_eq_some_head some]
  exact List.head_mem some

def hostContext (c : HostConfig) : Bridge.HostContext :=
  ⟨none, c.theme, some c.initialDisplayMode, some c.displayModes, none, c.locale, c.timeZone,
    c.platform⟩

def hostCapabilities (_ : HostConfig) : Bridge.HostCapabilities :=
  ⟨some .empty, some .empty, some .empty, none⟩

end HostConfig

end ToolView
