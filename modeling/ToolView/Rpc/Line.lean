import ToolView.Rpc
import ToolView.Text.Blank
import ToolView.Utf8

/-! Messages as lines of bytes: what a line holds, and what can be wrong with it. -/

namespace ToolView.Rpc

inductive LineFault where
  | notObject
  | wrongVersion
  | stated (text : String)
  deriving DecidableEq

def LineFault.message : LineFault → String
  | .notObject => "Message must be a JSON object"
  | .wrongVersion => "Missing or invalid jsonrpc version"
  | .stated text => text

inductive TransportError where
  | io (text : String)
  | json (text : String)
  | utf8 (cause : Utf8.DecodeError)
  | protocol (text : String)
  | invalidMessage (fault : LineFault)
  deriving DecidableEq

namespace TransportError

def message : TransportError → String
  | .io text => "IO error: " ++ text
  | .json text => "JSON serialization error: " ++ text
  | .utf8 cause => "Invalid UTF-8 sequence: " ++ cause.message
  | .protocol text => "Protocol error: " ++ text
  | .invalidMessage fault => "Invalid message format: " ++ fault.message

def code : TransportError → Int32
  | .json _ | .invalidMessage _ | .utf8 _ => ErrorData.parseError
  | .protocol _ => ErrorData.invalidRequest
  | .io _ => ErrorData.internalError

def errorData (e : TransportError) : ErrorData := .plain e.code e.message

end TransportError

abbrev Item := Except TransportError Message

def newline : UInt8 := 10

def isBlankLine (line : List UInt8) : Bool := line.all Text.isBlankByte

def ofValue (value : Json) : Item :=
  match value.object? with
  | none => .error (.invalidMessage .notObject)
  | some members =>
    if (members.get? "jsonrpc").bind Json.string? ≠ some version then
      .error (.invalidMessage .wrongVersion)
    else (Message.decode value).mapError fun cause => .json cause.message

def ofLine (line : List UInt8) : Item :=
  match Utf8.decode line with
  | .error cause => .error (.utf8 cause)
  | .ok chars =>
    match Json.readWithin? Json.depthLimit chars with
    | none => .error (.json DecodeError.malformed.message)
    | some value => ofValue value

end ToolView.Rpc
