import ToolView.Base64
import ToolView.Decode
import ToolView.Utf8

/-! What can be wrong with a view: its address, its content, its type, or a message from it. -/

namespace ToolView

inductive ContentFault where
  | empty (part : String)
  | notUrl (text : String) (cause : Url.ParseError)
  | noUrlInList
  | invalidUrl (text : String) (cause : Url.ParseError)
  | refusedUrl (url : Url)
  | badPayload (kind : String) (cause : DecodeError)
  | unknownAction (kind : String)
  | unknownReply (kind : String)
  | missingMessageId (kind : String)
  | stated (text : String)
  deriving DecidableEq

def ContentFault.message : ContentFault → String
  | .empty part => part ++ " must not be empty"
  | .notUrl text cause => "iframeUrl '" ++ text ++ "' is not a URL: " ++ cause.message
  | .noUrlInList => "uri-list holds no URL"
  | .invalidUrl text cause => "invalid URL " ++ text ++ ": " ++ cause.message
  | .refusedUrl url => "refusing to load " ++ url.write
  | .badPayload kind cause => "invalid '" ++ kind ++ "' payload: " ++ cause.message
  | .unknownAction kind => "unknown UI message type '" ++ kind ++ "'"
  | .unknownReply kind => "unknown host message type '" ++ kind ++ "'"
  | .missingMessageId kind => "'" ++ kind ++ "' requires a messageId"
  | .stated text => text

def ContentFault.report (fault : ContentFault) : String :=
  "invalid UI resource content: " ++ fault.message

inductive MessageFault where
  | shape (cause : DecodeError)
  | content (fault : ContentFault)
  deriving DecidableEq

def MessageFault.message : MessageFault → String
  | .shape cause => cause.message
  | .content fault => fault.report

inductive ViewError where
  | invalidUri (uri : String)
  | invalidContent (fault : ContentFault)
  | unknownMimeType (mimeType : String)
  | base64 (cause : Base64.DecodeError)
  | utf8 (cause : Utf8.DecodeError)
  | json (fault : MessageFault)
  deriving DecidableEq

def ViewError.message : ViewError → String
  | .invalidUri uri => "invalid UI resource URI '" ++ uri ++ "': must start with 'ui://'"
  | .invalidContent fault => fault.report
  | .unknownMimeType mimeType => "unknown UI resource MIME type '" ++ mimeType ++ "'"
  | .base64 cause => "base64 decode error: " ++ cause.message
  | .utf8 cause => "decoded blob is not valid UTF-8: " ++ cause.message
  | .json fault => "JSON error: " ++ fault.message

end ToolView
