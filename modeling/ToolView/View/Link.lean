import ToolView.Protocol.Tool

/-! The link between a tool and the view it renders into. It stands in the metadata of the tool,
as an object under one key and, for older readers, as the address alone under another. -/

namespace ToolView

inductive Visibility where
  | model
  | app
  deriving DecidableEq

namespace Visibility

def names : List (String × Visibility) := [("model", .model), ("app", .app)]

def name : Visibility → String
  | .model => "model"
  | .app => "app"

def everyone : List Visibility := [.model, .app]

def encode (v : Visibility) : Json := .str v.name

def decode : Json → Except DecodeError Visibility := Decode.name names

instance : JsonForm Visibility := ⟨encode, decode⟩

end Visibility

structure ViewLink where
  resourceUri : String
  visibility : Option (List Visibility)
  deriving DecidableEq

namespace ViewLink

def viewKey : String := "ui"

def uriKey : String := "resourceUri"

def legacyKey : String := "ui/resourceUri"

def visibilityKey : String := "visibility"

def encode (l : ViewLink) : Json :=
  .record [(uriKey, some (.str l.resourceUri)),
    (visibilityKey, l.visibility.map fun vs => .arr (vs.map Visibility.encode))]

def fields : Fields Json ViewLink :=
  mk <$> .required uriKey Decode.string
    <*> .optional visibilityKey (Decode.list Visibility.decode)

def decode : Json → Except DecodeError ViewLink := Decode.record "UiToolMeta" fields

instance : JsonForm ViewLink := ⟨encode, decode⟩

def toMeta (l : ViewLink) : Meta :=
  (Dict.empty.insert viewKey l.encode).insert legacyKey (.str l.resourceUri)

/-- The address under the newer key, whatever kind of value it is. -/
def nested? (m : Meta) : Option Json := m.getPath? [viewKey, uriKey]

/-- The address of the view in metadata: the newer key counts, even where it holds no text. -/
def uriOf? (m : Meta) : Option String :=
  ((nested? m).or (m.get? legacyKey)).bind Json.string?

/-- Makes both keys say the same. The newer one counts; an older one alone is copied, unless
something that is no object is in its way. -/
def normalize (m : Meta) : Meta :=
  match (nested? m).bind Json.string?, (m.get? legacyKey).bind Json.string? with
  | some uri, _ => m.insert legacyKey (.str uri)
  | none, some uri =>
    match m.get? viewKey with
    | none => m.insert viewKey (.ofObject (Dict.empty.insert uriKey (.str uri)))
    | some view =>
      match view.object? with
      | some o => m.insert viewKey (.ofObject (o.insert uriKey (.str uri)))
      | none => m
  | none, none => m

end ViewLink

namespace Tool

def viewUri? (t : Tool) : Option String := t.meta?.bind ViewLink.uriOf?

/-- Who may call a tool; everyone where the metadata does not say it in a readable way. -/
def visibility (t : Tool) : List Visibility :=
  match t.meta?.bind (·.getPath? [ViewLink.viewKey, ViewLink.visibilityKey]) with
  | none => Visibility.everyone
  | some value => ((Decode.list Visibility.decode value).toOption).getD Visibility.everyone

def isVisibleTo (t : Tool) (v : Visibility) : Bool := t.visibility.contains v

end Tool

end ToolView
