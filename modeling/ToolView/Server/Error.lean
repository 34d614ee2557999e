import ToolView.Rpc

/-! What goes wrong on the server's side. The failure of a tool is a result, the failure of a
request is an error that its response carries, and neither ends the conversation. -/

namespace ToolView

inductive ToolError where
  | invalidParameters (text : String)
  | execution (text : String)
  | other (text : String)
  deriving DecidableEq

def ToolError.message : ToolError → String
  | .invalidParameters text => "Invalid parameters: " ++ text
  | .execution text => "Execution failed: " ++ text
  | .other text => text

inductive ReadError where
  | notFound (uri : String)
  | execution (text : String)
  | other (text : String)
  deriving DecidableEq

def ReadError.message : ReadError → String
  | .notFound uri => "Resource not found: " ++ uri
  | .execution text => "Execution failed: " ++ text
  | .other text => text

namespace Server

inductive RegistrationFault where
  | notViewUri (uri : String)
  | uriTaken (uri : String)
  | linkedElsewhere (tool uri : String)
  | notLinked (tool : String)
  | nameTaken (tool : String)
  | stated (text : String)
  deriving DecidableEq

def RegistrationFault.message : RegistrationFault → String
  | .notViewUri uri => "UI resource URI must use the ui:// scheme: " ++ uri
  | .uriTaken uri => "resource already registered: " ++ uri
  | .linkedElsewhere tool uri => "tool " ++ tool ++ " links to a non-ui:// resource: " ++ uri
  | .notLinked tool => "app tool " ++ tool ++ " has no _meta.ui.resourceUri"
  | .nameTaken tool => "tool already registered: " ++ tool
  | .stated text => text

inductive ParamsFault where
  | missing
  | shape (cause : DecodeError)
  | stated (text : String)
  deriving DecidableEq

def ParamsFault.message : ParamsFault → String
  | .missing => "Missing params"
  | .shape cause => cause.message
  | .stated text => text

inductive Error where
  | methodNotFound (method : String)
  | invalidParams (fault : ParamsFault)
  | internal (text : String)
  | toolNotFound (name : String)
  | resourceNotFound (uri : String)
  | registration (fault : RegistrationFault)
  deriving DecidableEq

namespace Error

def message : Error → String
  | .methodNotFound method => "Method not found: " ++ method
  | .invalidParams fault => "Invalid parameters: " ++ fault.message
  | .internal text => "Internal error: " ++ text
  | .toolNotFound name => "Tool not found: " ++ name
  | .resourceNotFound uri => "Resource not found: " ++ uri
  | .registration fault => "Registration error: " ++ fault.message

def code : Error → Int32
  | .methodNotFound _ => Rpc.ErrorData.methodNotFound
  | .invalidParams _ | .toolNotFound _ => Rpc.ErrorData.invalidParams
  | .resourceNotFound _ => Rpc.ErrorData.resourceNotFound
  | .internal _ | .registration _ => Rpc.ErrorData.internalError

def errorData (e : Error) : Rpc.ErrorData := .plain e.code e.message

def ofRead : ReadError → Error
  | .notFound uri => .resourceNotFound uri
  | e => .internal e.message

end Error

end Server

end ToolView
