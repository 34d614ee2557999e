import ToolView.Server

/-! The requests that are answered, whoever provides the answers: a server of apps is one provider
of them. Every request gets one response, a result or an error that says why there is none. -/

namespace ToolView.Server

namespace Method

def handshake : String := "initialize"
def ping : String := "ping"
def listTools : String := "tools/list"
def callTool : String := "tools/call"
def listResources : String := "resources/list"
def readResource : String := "resources/read"

end Method

def params {α : Type} (decode : Json → Except DecodeError α) (value : Option Json) :
    Except Error α :=
  match value with
  | none => .error (.invalidParams .missing)
  | some value => (decode value).mapError fun cause => .invalidParams (.shape cause)

def optionalParams {α : Type} (decode : Json → Except DecodeError α) (value : Option Json) :
    Except Error (Option α) :=
  match value with
  | none => .ok none
  | some value => (params decode (some value)).map some

/-- What stands behind a server: all that it says of itself, and what it answers. -/
structure Provider where
  name : String
  version : String := defaultVersion
  instructions : Option String
  capabilities : ServerCapabilities
  listTools : List Tool
  callTool : ToolCall → Except Error ToolResult
  listResources : List Resource
  readResource : String → Except Error ReadResourceResult

namespace Provider

def introduction (p : Provider) (given : Option InitializeParams) : InitializeResult :=
  ⟨negotiateServerVersion (given.bind (·.protocolVersion)), p.capabilities,
    ⟨p.name, p.version, none⟩, p.instructions⟩

def result (p : Provider) (method : String) (value : Option Json) : Except Error Json :=
  if method = Method.handshake then do
    return (p.introduction (← optionalParams InitializeParams.decode value)).encode
  else if method = Method.ping then
    .ok (.ofObject .empty)
  else if method = Method.listTools then
    .ok (ListToolsResult.mk p.listTools none).encode
  else if method = Method.callTool then do
    return (← p.callTool (← params ToolCall.decode value)).encode
  else if method = Method.listResources then
    .ok (ListResourcesResult.mk p.listResources none).encode
  else if method = Method.readResource then do
    return (← p.readResource (← params ReadResourceParams.decode value).uri).encode
  else .error (.methodNotFound method)

def respond (p : Provider) (r : Rpc.Request) : Rpc.Response :=
  match p.result r.method r.params with
  | .ok value => .success r.id value
  | .error e => .failure r.id e.errorData

end Provider

def provider (s : Server) : Provider where
  name := s.name
  version := s.version
  instructions := s.instructions
  capabilities := s.capabilities
  listTools := s.listTools
  callTool := s.callTool
  listResources := s.listResources
  readResource := s.readResource

def result (s : Server) (method : String) (value : Option Json) : Except Error Json :=
  s.provider.result method value

def respond (s : Server) (r : Rpc.Request) : Rpc.Response := s.provider.respond r

end ToolView.Server
