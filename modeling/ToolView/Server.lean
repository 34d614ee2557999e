import ToolView.Server.AppTool
import ToolView.Server.Toolset
import ToolView.Protocol.Handshake
import ToolView.View.Needs
import ToolView.View.Resource

/-! Servers of apps: what is registered with one, and what it answers from that. Tools stand under
their names and resources under their addresses, each taken at most once. -/

namespace ToolView

abbrev ResourceReader := String → Except ReadError ReadResourceResult

structure ServedResource where
  listing : Resource
  /-- What the view needs where its contents do not say it themselves. -/
  needs : Option ViewNeeds
  read : ResourceReader

structure AppResource where
  title : Option String
  description : Option String
  mimeType : Option String
  needs : Option ViewNeeds
  metadata : Meta
  deriving DecidableEq

structure Server where
  name : String
  version : String
  instructions : Option String
  tools : Toolset
  resources : Dict ServedResource
  hasApps : Bool

/-- The resource of an app under an address. A type that is not given is that of apps. -/
def AppResource.served (r : AppResource) (name uri : String) (read : ResourceReader) :
    ServedResource :=
  let metadata : Meta := match r.needs with
    | some needs => r.metadata.extendMissing needs.toMeta
    | none => r.metadata
  ⟨{ Resource.named uri name with
      title := r.title
      description := r.description
      mimeType := some (r.mimeType.getD ViewKind.app.mimeType)
      meta? := metadata.nonempty? }, r.needs, read⟩

def ViewResource.served (v : ViewResource) : ServedResource :=
  ⟨{ Resource.named v.resource.uri (v.props.title.getD v.resource.uri) with
      title := v.props.title
      description := v.props.description
      mimeType := v.resource.mimeType }, none, fun _ => .ok ⟨[v.resource]⟩⟩

namespace ServedResource

/-- Contents as they are sent: with the type of the listing where they have none, and with the
needs of the view where they state none. -/
def complete (r : ServedResource) (c : Contents) : Contents :=
  let c := match r.listing.mimeType with
    | some mimeType => c.withDefaultMimeType mimeType
    | none => c
  match r.needs with
  | none => c
  | some needs =>
    let own : Meta := c.meta?.getD .empty
    if own.contains ViewLink.viewKey then c else c.withMeta (own.extendMissing needs.toMeta)

end ServedResource

namespace Server

def defaultVersion : String := "0.3.0"

def extensionId : String := "io.modelcontextprotocol/ui"

def named (name : String) : Server := ⟨name, defaultVersion, none, .empty, .empty, false⟩

inductive Registration where
  | appResource (name uri : String) (resource : AppResource) (read : ResourceReader)
  | view (view : ViewResource)
  | appTool (name : String) (tool : AppTool) (handler : ToolHandler)
  | tool (tool : Tool) (handler : ToolHandler)

def addResource (s : Server) (r : ServedResource) : Except RegistrationFault Server :=
  let uri := r.listing.uri
  if !isViewUri uri then .error (.notViewUri uri)
  else if s.resources.contains uri then .error (.uriTaken uri)
  else .ok { s with resources := s.resources.insert uri r }

def addTool (s : Server) (tool : Tool) (handler : ToolHandler) : Except RegistrationFault Server :=
  if s.tools.contains tool.name then .error (.nameTaken tool.name)
  else .ok { s with tools := s.tools.insert tool handler }

def checkLink (tool : Tool) : Except RegistrationFault Unit :=
  match tool.viewUri? with
  | some uri => if isViewUri uri then .ok () else .error (.linkedElsewhere tool.name uri)
  | none => .error (.notLinked tool.name)

def register (s : Server) (r : Registration) : Except RegistrationFault Server :=
  match r with
  | .appResource name uri resource read =>
    { s with hasApps := true }.addResource (resource.served name uri read)
  | .view view => s.addResource view.served
  | .appTool name tool handler => do
    let tool := tool.named name
    checkLink tool
    { s with hasApps := true }.addTool tool handler
  | .tool tool handler => s.addTool tool handler

def capabilities (s : Server) : ServerCapabilities :=
  let c := ServerCapabilities.none.withTools false
  let c := if s.resources.isEmpty then c else c.withResources false false
  if s.hasApps then
    c.withExtension extensionId (.record [("mimeTypes", some (.strings [ViewKind.app.mimeType]))])
  else c

/-- The tools that the model is told of, in the order of their names. -/
def listTools (s : Server) : List Tool := s.tools.tools.filter (·.isVisibleTo .model)

/-- Calls a tool, whether it is listed or not. -/
def callTool (s : Server) (call : ToolCall) : Except Error ToolResult :=
  s.tools.call call.name call.arguments

def listResources (s : Server) : List Resource := s.resources.values.map (·.listing)

def readResource (s : Server) (uri : String) : Except Error ReadResourceResult :=
  match s.resources.get? uri with
  | none => .error (.resourceNotFound uri)
  | some r =>
    match r.read uri with
    | .error e => .error (.ofRead e)
    | .ok result => .ok ⟨result.contents.map r.complete⟩

end Server

end ToolView
