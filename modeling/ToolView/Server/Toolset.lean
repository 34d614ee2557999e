import ToolView.Protocol.Tool
import ToolView.Server.Error

/-! Tools with their handlers, each pair under the name of the tool. -/

namespace ToolView

abbrev ToolHandler := Option Object → Except ToolError ToolResult

structure ServedTool where
  tool : Tool
  handler : ToolHandler

/-- Calls a tool. A failure of the handler is a result as well: one that says what went wrong. -/
def ServedTool.call (t : ServedTool) (arguments : Option Object) : ToolResult :=
  match t.handler arguments with
  | .ok result => result
  | .error e => .failure [.ofText e.message]

structure Toolset where
  served : Dict ServedTool

namespace Toolset

def empty : Toolset := ⟨.empty⟩

def contains (s : Toolset) (name : String) : Bool := s.served.contains name

def insert (s : Toolset) (tool : Tool) (handler : ToolHandler) : Toolset :=
  ⟨s.served.insert tool.name ⟨tool, handler⟩⟩

def get? (s : Toolset) (name : String) : Option Tool := (s.served.get? name).map (·.tool)

def isEmpty (s : Toolset) : Bool := s.served.isEmpty

def tools (s : Toolset) : List Tool := s.served.values.map (·.tool)

def call (s : Toolset) (name : String) (arguments : Option Object) :
    Except Server.Error ToolResult :=
  match s.served.get? name with
  | some t => .ok (t.call arguments)
  | none => .error (.toolNotFound name)

end Toolset

end ToolView
