import ToolView.Decode

/-! Metadata: the object that tools, resources and content carry beside what they say. -/

namespace ToolView

abbrev Meta := Object

namespace Meta

def extendMissing (m other : Meta) : Meta :=
  other.entries.foldl (fun m e => if m.contains e.1 then m else m.insert e.1 e.2) m

/-- The value at a key of nested objects; an empty path leads nowhere. -/
def getPath? (m : Meta) : List String → Option Json
  | [] => none
  | key :: rest => rest.foldl (fun value key => value.bind (Json.get? key)) (m.get? key)

def nonempty? (m : Meta) : Option Meta := if m.isEmpty then none else some m

end Meta

end ToolView
