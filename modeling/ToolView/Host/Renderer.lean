import ToolView.Bridge

/-! From a tool to its view: finding the resource that the tool renders into, and setting up the
bridge to it. -/

namespace ToolView

structure Renderer where
  toolName : String
  sandbox : SandboxConfig
  tool : Option Tool
  toolInput : Option Json
  toolResult : Option ToolResult
  deriving DecidableEq

namespace Renderer

def of (toolName : String) (sandbox : SandboxConfig) : Renderer :=
  ⟨toolName, sandbox, none, none, none⟩

def findTool (r : Renderer) (client : Client) : Except HostError Tool × List HostEvent :=
  match r.tool with
  | some tool => (.ok tool, [])
  | none =>
    match client.listTools with
    | .error e => (.error e, [.listTools])
    | .ok tools =>
      match tools.find? (fun t => t.name == r.toolName) with
      | some tool => (.ok tool, [.listTools])
      | none => (.error (.toolNotFound r.toolName), [.listTools])

/-- The contents under an address, or else the first ones. -/
def pick? (uri : String) (contents : List Contents) : Option Contents :=
  (contents.find? (fun c => c.uri == uri)).or contents.head?

def planFor (r : Renderer) (client : Client) (uri : String) : Except HostError RenderPlan := do
  let result ← client.readResource uri
  match pick? uri result.contents with
  | none => throw (.invalidResource ("resources/read returned nothing for " ++ uri))
  | some contents => (RenderPlan.ofContents contents r.sandbox).mapError .view

def resolve (r : Renderer) (client : Client) : Except HostError RenderPlan × List HostEvent :=
  match r.findTool client with
  | (.error e, events) => (.error e, events)
  | (.ok tool, events) =>
    match tool.viewUri? with
    | none => (.error (.noViewResource r.toolName), events)
    | some uri => (r.planFor client uri, events ++ [.readResource uri])

def resolveEmbedded (r : Renderer) (result : ToolResult) : Except ViewError (List RenderPlan) :=
  ((result.content.filterMap Content.resource?).filter fun b => isViewUri b.resource.uri).mapM
    fun b => RenderPlan.ofContents b.resource r.sandbox

def unbridged? : ViewKind → Option String
  | .html | .app => none
  | .uriList => some "ExternalUrl"
  | .remoteDom .react => some "RemoteDom(React)"
  | .remoteDom .webComponents => some "RemoteDom(Webcomponents)"

def bridge (r : Renderer) (plan : RenderPlan) (config : HostConfig) : Except HostError Bridge :=
  match unbridged? plan.mode with
  | some mode => .error (.unsupported ("bridge for " ++ mode ++ " resources"))
  | none =>
    let b := Bridge.start config plan
    let b := match r.toolInput with
      | some arguments => (b.sendToolInput arguments).2
      | none => b
    let b := match r.toolResult with
      | some result => (b.sendToolResult result).2
      | none => b
    .ok b

end Renderer

end ToolView
