import ToolView.Host.Config
import ToolView.Text.Blank
import ToolView.View.Needs

/-! The policy that isolates a view: what its page may load, and which features of the browser it
may use. A server that a view names enters the policy only if it cannot be taken for more than one
source, so that no name adds a directive, a keyword or a second source. -/

namespace ToolView

namespace ViewSources

/-- Whether a character could end a source or begin something else than one. -/
def isBreaking (c : Char) : Bool :=
  Text.isBlank c || c == ';' || c == ',' || c == '\'' || c == '"'

def isSource (text : String) : Bool := !text.isEmpty && !text.toList.any isBreaking

def kept (names : List String) : List String := names.filter isSource

def keptOf (names : Option (List String)) : List String := kept (names.getD [])

/-- The same sources without the names that are none; a missing list stays missing. -/
def sanitize (s : ViewSources) : ViewSources :=
  ⟨s.connect.map kept, s.resource.map kept, s.frame.map kept, s.baseUri.map kept⟩

end ViewSources

namespace Csp

structure Directive where
  name : String
  sources : List String
  deriving DecidableEq

def Directive.write (d : Directive) : String := " ".intercalate (d.name :: d.sources)

def directives (s : ViewSources) : List Directive :=
  let resource := ViewSources.keptOf s.resource
  let frame := ViewSources.keptOf s.frame
  [⟨"default-src", ["'none'"]⟩,
    ⟨"script-src", ["'self'", "'unsafe-inline'"] ++ resource⟩,
    ⟨"style-src", ["'self'", "'unsafe-inline'"] ++ resource⟩,
    ⟨"img-src", ["'self'", "data:"] ++ resource⟩,
    ⟨"font-src", ["'self'"] ++ resource⟩,
    ⟨"media-src", ["'self'", "data:"] ++ resource⟩,
    ⟨"connect-src", ["'self'"] ++ ViewSources.keptOf s.connect⟩,
    ⟨"frame-src", if frame.isEmpty then ["'none'"] else frame⟩,
    ⟨"base-uri", ["'self'"] ++ ViewSources.keptOf s.baseUri⟩,
    ⟨"object-src", ["'none'"]⟩]

def policy (s : Option ViewSources) : String :=
  "; ".intercalate ((directives (s.getD .none)).map Directive.write)

end Csp

def ViewPermissions.allowed (p : ViewPermissions) : List String :=
  (if p.camera.isSome then ["camera"] else []) ++
    (if p.microphone.isSome then ["microphone"] else []) ++
    (if p.geolocation.isSome then ["geolocation"] else []) ++
    (if p.clipboardWrite.isSome then ["clipboard-write"] else [])

def allowAttribute (p : Option ViewPermissions) : String :=
  "; ".intercalate ((p.map ViewPermissions.allowed).getD [])

structure SandboxPolicy where
  proxyUrl : Url
  sandbox : String
  csp : String
  allow : String
  deriving DecidableEq

/-- The policy for a view with these needs; what the host allows by itself comes last. -/
def SandboxPolicy.of (config : SandboxConfig) (needs : Option ViewNeeds) : SandboxPolicy :=
  let asked := allowAttribute (needs.bind (·.permissions))
  let allow := match config.permissionsPolicy with
    | none => asked
    | some policy => (if asked.isEmpty then "" else asked ++ "; ") ++ policy
  ⟨config.url, config.sandboxAttribute, Csp.policy (needs.bind (·.sources)), allow⟩

end ToolView
