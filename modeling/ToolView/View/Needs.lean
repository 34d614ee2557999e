import ToolView.Protocol.Resource
import ToolView.View.Link

/-! What a view needs of the sandbox it runs in: the servers it reaches, the features it uses, and
how it wants to be shown. -/

namespace ToolView

inductive DisplayMode where
  | inline
  | fullscreen
  | pip
  deriving DecidableEq

namespace DisplayMode

def names : List (String × DisplayMode) :=
  [("inline", .inline), ("fullscreen", .fullscreen), ("pip", .pip)]

def name : DisplayMode → String
  | .inline => "inline"
  | .fullscreen => "fullscreen"
  | .pip => "pip"

def encode (m : DisplayMode) : Json := .str m.name

def decode {ν : Type} [Tree ν] (tree : ν) : Except DecodeError DisplayMode := Decode.name names tree

instance : JsonForm DisplayMode := ⟨encode, decode⟩

end DisplayMode

structure ViewSources where
  connect : Option (List String)
  resource : Option (List String)
  frame : Option (List String)
  baseUri : Option (List String)
  deriving DecidableEq

namespace ViewSources

def none : ViewSources := ⟨.none, .none, .none, .none⟩

def encode (s : ViewSources) : Json :=
  .record [("connectDomains", s.connect.map .strings), ("resourceDomains", s.resource.map .strings),
    ("frameDomains", s.frame.map .strings), ("baseUriDomains", s.baseUri.map .strings)]

def fields : Fields Json ViewSources :=
  mk <$> .optional "connectDomains" (Decode.list Decode.string)
    <*> .optional "resourceDomains" (Decode.list Decode.string)
    <*> .optional "frameDomains" (Decode.list Decode.string)
    <*> .optional "baseUriDomains" (Decode.list Decode.string)

def decode : Json → Except DecodeError ViewSources := Decode.record "UiResourceCsp" fields

instance : JsonForm ViewSources := ⟨encode, decode⟩

end ViewSources

/-- The features a view uses; each that is asked for has an object of settings. -/
structure ViewPermissions where
  camera : Option Object
  microphone : Option Object
  geolocation : Option Object
  clipboardWrite : Option Object
  deriving DecidableEq

namespace ViewPermissions

def encode (p : ViewPermissions) : Json :=
  .record [("camera", p.camera.map .ofObject), ("microphone", p.microphone.map .ofObject),
    ("geolocation", p.geolocation.map .ofObject),
    ("clipboardWrite", p.clipboardWrite.map .ofObject)]

def fields : Fields Json ViewPermissions :=
  mk <$> .optional "camera" Decode.object <*> .optional "microphone" Decode.object
    <*> .optional "geolocation" Decode.object <*> .optional "clipboardWrite" Decode.object

def decode : Json → Except DecodeError ViewPermissions := Decode.record "UiPermissions" fields

instance : JsonForm ViewPermissions := ⟨encode, decode⟩

end ViewPermissions

structure ViewNeeds where
  sources : Option ViewSources
  permissions : Option ViewPermissions
  domain : Option String
  prefersBorder : Option Bool
  deriving DecidableEq

namespace ViewNeeds

def none : ViewNeeds := ⟨.none, .none, .none, .none⟩

def encode (n : ViewNeeds) : Json :=
  .record [("csp", n.sources.map ViewSources.encode),
    ("permissions", n.permissions.map ViewPermissions.encode), ("domain", n.domain.map .str),
    ("prefersBorder", n.prefersBorder.map .bool)]

def fields : Fields Json ViewNeeds :=
  mk <$> .optional "csp" ViewSources.decode <*> .optional "permissions" ViewPermissions.decode
    <*> .optional "domain" Decode.string <*> .optional "prefersBorder" Decode.bool

def decode : Json → Except DecodeError ViewNeeds := Decode.record "UiResourceMeta" fields

instance : JsonForm ViewNeeds := ⟨encode, decode⟩

def toMeta (n : ViewNeeds) : Meta := Dict.empty.insert ViewLink.viewKey n.encode

/-- The needs that contents state, where they are well-formed. -/
def ofContents? (c : Contents) : Option ViewNeeds :=
  (c.meta?.bind (·.get? ViewLink.viewKey)).bind fun value => (decode value).toOption

end ViewNeeds

end ToolView
