import ToolView.View.Link

/-! What an author says of a tool that renders into a view. The link to the view can be set before
or after other metadata: the last link counts, and metadata never replaces one. -/

namespace ToolView

structure AppTool where
  title : Option String
  description : Option String
  inputSchema : Option Object
  outputSchema : Option Object
  annotations : Option ToolAnnotations
  metadata : Meta
  deriving DecidableEq

namespace AppTool

def none : AppTool := ⟨.none, .none, .none, .none, .none, .empty⟩

/-- Links the tool to its view, whatever it was linked to. -/
def withView (t : AppTool) (link : ViewLink) : AppTool :=
  let unlinked : Meta := (t.metadata.erase ViewLink.viewKey).erase ViewLink.legacyKey
  { t with metadata := unlinked.extendMissing link.toMeta }

def withMeta (t : AppTool) (m : Meta) : AppTool :=
  { t with metadata := t.metadata.extendMissing m }

/-- The tool under a name, its link under both keys. -/
def named (t : AppTool) (name : String) : Tool where
  name := name
  title := t.title
  description := some (t.description.getD "")
  inputSchema := t.inputSchema.getD Tool.emptySchema
  outputSchema := t.outputSchema
  annotations := t.annotations
  meta? := some (ViewLink.normalize t.metadata)

end AppTool

end ToolView
