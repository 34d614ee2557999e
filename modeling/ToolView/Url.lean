/-! URLs in parts, and how the parts are written as one text. Reading is in
`ToolView.Url.Parser`. -/

namespace ToolView

inductive Url.Host where
  | domain (name : String)
  | ipv4 (address : Nat)
  | ipv6 (pieces : List Nat)
  deriving DecidableEq

inductive Url.Path where
  | opaqueText (text : String)
  | segments (list : List String)
  deriving DecidableEq

/-- A URL whose parts are percent-encoded already. -/
structure Url where
  scheme : String
  username : String
  password : Option String
  host : Option Url.Host
  port : Option Nat
  path : Url.Path
  query : Option String
  fragment : Option String
  deriving DecidableEq

namespace Url

inductive ParseError where
  | relativeWithoutBase
  | emptyHost
  | invalidPort
  | invalidIpv4
  | invalidIpv6
  | invalidDomain
  | invalidHostCharacter
  deriving DecidableEq

def ParseError.message : ParseError → String
  | .relativeWithoutBase => "relative URL without a base"
  | .emptyHost => "empty host"
  | .invalidPort => "invalid port number"
  | .invalidIpv4 => "invalid IPv4 address"
  | .invalidIpv6 => "invalid IPv6 address"
  | .invalidDomain => "invalid international domain name"
  | .invalidHostCharacter => "invalid domain character"

/-- The schemes with a host, a port of their own and a path that is never empty. -/
def defaultPort? (scheme : String) : Option Nat :=
  if scheme = "http" ∨ scheme = "ws" then some 80
  else if scheme = "https" ∨ scheme = "wss" then some 443
  else if scheme = "ftp" then some 21
  else none

def isSpecial (scheme : String) : Bool := (defaultPort? scheme).isSome || scheme == "file"

def hex (n : Nat) : String := String.ofList (Nat.toDigits 16 n)

def leadingZeros : List Nat → Nat
  | 0 :: rest => leadingZeros rest + 1
  | _ => 0

def longestZeros (index : Nat) : List Nat → Nat × Nat
  | [] => (0, 0)
  | p :: ps =>
    let here := leadingZeros (p :: ps)
    let (start, length) := longestZeros (index + 1) ps
    if length ≤ here ∧ 0 < here then (index, here) else (start, length)

/-- An address of eight pieces; the longest run of at least two zeros is left out. -/
def writeIpv6 (pieces : List Nat) : String :=
  let colons (ps : List Nat) := ":".intercalate (ps.map hex)
  let (start, length) := longestZeros 0 pieces
  if length < 2 then colons pieces
  else colons (pieces.take start) ++ "::" ++ colons (pieces.drop (start + length))

def Host.write : Host → String
  | .domain name => name
  | .ipv4 a =>
    ".".intercalate ([a / 16777216, a / 65536 % 256, a / 256 % 256, a % 256].map toString)
  | .ipv6 pieces => "[" ++ writeIpv6 pieces ++ "]"

def Path.write : Path → String
  | .opaqueText text => text
  | .segments list => String.join (list.map ("/" ++ ·))

def writeCredentials (u : Url) : String :=
  match u.password with
  | some password => u.username ++ ":" ++ password ++ "@"
  | none => if u.username = "" then "" else u.username ++ "@"

/-- The authority with its slashes; without one, a mark that keeps a path which begins with two
slashes from reading as an authority. -/
def writeAuthority (u : Url) : String :=
  match u.host with
  | some host =>
    "//" ++ u.writeCredentials ++ host.write ++
      (match u.port with | some port => ":" ++ toString port | none => "")
  | none =>
    match u.path with
    | .segments ("" :: _ :: _) => "/."
    | _ => ""

def write (u : Url) : String :=
  u.scheme ++ ":" ++ u.writeAuthority ++ u.path.write ++
    (match u.query with | some query => "?" ++ query | none => "") ++
    (match u.fragment with | some fragment => "#" ++ fragment | none => "")

end Url

end ToolView
