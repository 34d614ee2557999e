import ToolView.Host.Policy
import ToolView.View.Resource

/-! Render plans: what a host puts on the screen for the contents of a resource, and under which
policy. -/

namespace ToolView

structure RenderPlan where
  uri : String
  mode : ViewKind
  content : String
  needs : Option ViewNeeds
  wishes : ViewMetadata
  sandbox : SandboxPolicy
  deriving DecidableEq

namespace RenderPlan

/-- The first line of a list of addresses that is neither blank nor a comment. -/
def firstUri? (list : List Char) : Option String :=
  (((Text.lines list).map Text.trim).find? fun line =>
    !line.isEmpty && line.head? != some '#').map String.ofList

/-- The address that a list names, in its normal form; only the web is loaded. -/
def address (list : String) : Except ContentFault String :=
  match firstUri? list.toList with
  | none => .error .noUrlInList
  | some uri =>
    match Url.parse uri with
    | .error cause => .error (.invalidUrl uri cause)
    | .ok url =>
      if url.scheme = "http" ∨ url.scheme = "https" then .ok url.write else .error (.refusedUrl url)

def contentFor (mode : ViewKind) (text : String) : Except ViewError String :=
  match mode with
  | .uriList => (address text).mapError .invalidContent
  | _ => .ok text

def modeOf (c : Contents) : Except ViewError ViewKind :=
  match c.mimeType with
  | none => .error (.unknownMimeType "")
  | some mimeType => ViewKind.parse mimeType

def ofContents (c : Contents) (sandbox : SandboxConfig) : Except ViewError RenderPlan := do
  let mode ← modeOf c
  let text ← c.decodedText
  let content ← contentFor mode text
  let needs := ViewNeeds.ofContents? c
  return ⟨c.uri, mode, content, needs, ViewMetadata.ofMeta? c.meta?, .of sandbox needs⟩

end RenderPlan

end ToolView
