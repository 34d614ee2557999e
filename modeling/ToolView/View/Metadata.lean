import ToolView.Meta
import ToolView.Text.Blank

/-! What the author of a view asks of the host. In the metadata of a resource these wishes stand
under keys with a start of their own, beside the keys of everyone else. -/

namespace ToolView

structure ViewMetadata where
  preferredFrameSize : Option (String × String)
  initialRenderData : Option Json
  extra : Object
  deriving DecidableEq

namespace ViewMetadata

def keyStart : String := "mcpui.dev/ui-"

def frameSizeName : String := "preferred-frame-size"

def renderDataName : String := "initial-render-data"

def none : ViewMetadata := ⟨.none, .none, .empty⟩

instance : Inhabited ViewMetadata := ⟨none⟩

def isEmpty (m : ViewMetadata) : Bool :=
  m.preferredFrameSize.isNone && m.initialRenderData.isNone && m.extra.isEmpty

def withSize (m : ViewMetadata) (width height : String) : ViewMetadata :=
  { m with preferredFrameSize := some (width, height) }

def withData (m : ViewMetadata) (data : Json) : ViewMetadata :=
  { m with initialRenderData := some data }

def withEntry (m : ViewMetadata) (name : String) (value : Json) : ViewMetadata :=
  { m with extra := m.extra.insert name value }

def encodeSize (size : String × String) : Json := .arr [.str size.1, .str size.2]

def toMeta (m : ViewMetadata) : Meta :=
  let start : Meta := .empty
  let sized := match m.preferredFrameSize with
    | some size => start.insert (keyStart ++ frameSizeName) (encodeSize size)
    | .none => start
  let filled := match m.initialRenderData with
    | some data => sized.insert (keyStart ++ renderDataName) data
    | .none => sized
  m.extra.entries.foldl (fun all e => all.insert (keyStart ++ e.1) e.2) filled

/-- The wishes after one more entry of metadata; a size that is no pair of texts is ignored. -/
def addEntry (m : ViewMetadata) (key : String) (value : Json) : ViewMetadata :=
  match Text.dropStart? keyStart key with
  | .none => m
  | some name =>
    if name = frameSizeName then
      match Decode.pair value with
      | .ok size => { m with preferredFrameSize := some size }
      | .error _ => m
    else if name = renderDataName then { m with initialRenderData := some value }
    else m.withEntry name value

def ofMeta (m : Meta) : ViewMetadata :=
  m.entries.foldl (fun wishes e => wishes.addEntry e.1 e.2) none

def ofMeta? (m : Option Meta) : ViewMetadata := (m.map ofMeta).getD none

def encode (m : ViewMetadata) : Json :=
  .record [("preferred_frame_size", m.preferredFrameSize.map encodeSize),
    ("initial_render_data", m.initialRenderData),
    ("extra", if m.extra.isEmpty then .none else some (.ofObject m.extra))]

def fields : Fields Json ViewMetadata :=
  mk <$> .optional "preferred_frame_size" Decode.pair
    <*> .optional "initial_render_data" Decode.json <*> .withDefault "extra" Decode.object .empty

def decode : Json → Except DecodeError ViewMetadata := Decode.record "UiMetadata" fields

instance : JsonForm ViewMetadata := ⟨encode, decode⟩

end ViewMetadata

end ToolView
