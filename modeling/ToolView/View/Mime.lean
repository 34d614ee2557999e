import ToolView.Text.Blank
import ToolView.View.Error

/-! The kinds of views and the MIME types that name them. Reading a MIME type ignores case, blanks
around its parts, quotes around a parameter and parameters that say nothing about the kind. -/

namespace ToolView

inductive Framework where
  | react
  | webComponents
  deriving DecidableEq

namespace Framework

def names : List (String × Framework) := [("react", .react), ("webcomponents", .webComponents)]

def name : Framework → String
  | .react => "react"
  | .webComponents => "webcomponents"

def encode (f : Framework) : Json := .str f.name

def decode : Json → Except DecodeError Framework := Decode.name names

instance : JsonForm Framework := ⟨encode, decode⟩

end Framework

/-- The kind of a view: a page, the address of a page, a script that builds elements, or a page
that talks to its host. -/
inductive ViewKind where
  | html
  | uriList
  | remoteDom (framework : Framework)
  | app
  deriving DecidableEq

namespace ViewKind

def htmlType : String := "text/html"

def uriListType : String := "text/uri-list"

def remoteDomType : String := "application/vnd.mcp-ui.remote-dom+javascript"

def appType : String := "text/html;profile=mcp-app"

def mimeType : ViewKind → String
  | .html => htmlType
  | .uriList => uriListType
  | .remoteDom framework => remoteDomType ++ "; framework=" ++ framework.name
  | .app => appType

/-- A parameter of a MIME type: its key and its value without blanks and quotes, in lower case. -/
def parameter? (part : List Char) : Option (String × String) :=
  (Text.cut? (· == '=') part).map fun (key, value) =>
    (String.ofList (Text.lower (Text.trim key)),
      String.ofList (Text.lower (Text.trimBy (· == '"') (Text.trim value))))

def splitMime (mime : String) : String × List (String × String) :=
  match Text.splitBy (· == ';') mime.toList with
  | [] => ("", [])
  | essence :: parts =>
    (String.ofList (Text.lower (Text.trim essence)), parts.filterMap parameter?)

/-- The kind that a type and its parameters name; of two parameters with one key the first
counts. -/
def ofParts? (essence : String) (parameters : List (String × String)) : Option ViewKind :=
  if essence = htmlType then
    some (if parameters.lookup "profile" = some "mcp-app" then .app else .html)
  else if essence = "text/html+mcp" then some .app
  else if essence = uriListType then some .uriList
  else if essence = remoteDomType then
    match parameters.lookup "framework" with
    | none => some (.remoteDom .react)
    | some name => (Framework.names.lookup name).map .remoteDom
  else none

def parse (mime : String) : Except ViewError ViewKind :=
  let (essence, parameters) := splitMime mime
  match ofParts? essence parameters with
  | some kind => .ok kind
  | none => .error (.unknownMimeType mime)

end ViewKind

end ToolView
