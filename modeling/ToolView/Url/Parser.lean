import ToolView.Url.Host
import ToolView.Url.Path

/-! Reading a URL that stands on its own. Blanks and controls at the ends are dropped, and so is
every tab and line break; the scheme decides what may follow it. -/

namespace ToolView.Url

def isPadding (c : Char) : Bool := c.toNat ≤ 32

def isSchemeChar (c : Char) : Bool :=
  c.isAlphanum || c == '+' || c == '-' || c == '.'

def takeScheme? (cs : List Char) : Option (String × List Char) := do
  let (scheme, rest) ← Text.cut? (· == ':') cs
  match significant scheme with
  | first :: others =>
    if first.isAlpha && others.all isSchemeChar then
      some (String.ofList (Text.lower (first :: others)), rest)
    else none
  | [] => none

def endsPath (c : Char) : Bool := c == '?' || c == '#'

def endsAuthority (special : Bool) (c : Char) : Bool := isSlash special c || endsPath c

def cutCredentials? (cs : List Char) : Option (List Char × List Char) :=
  (Text.cut? (· == '@') cs.reverse).map fun (after, before) => (before.reverse, after.reverse)

/-- The host of an authority, and what follows it: the colon of a port counts outside brackets
only. -/
def spanHost : (inBrackets : Bool) → List Char → List Char × List Char
  | _, [] => ([], [])
  | inBrackets, c :: cs =>
    if c = ':' ∧ !inBrackets then ([], c :: cs)
    else
      let inBrackets := if c = '[' then true else if c = ']' then false else inBrackets
      let (host, rest) := spanHost inBrackets cs
      (c :: host, rest)

/-- Reads the digits of a port; none at all means the default port. -/
def parsePort (cs : List Char) : Except ParseError (Option Nat) :=
  if cs.isEmpty then .ok none
  else match Text.naturalIn? 10 cs with
    | some n => if n < 65536 then .ok (some n) else .error .invalidPort
    | none => .error .invalidPort

def parseTail (special : Bool) (cs : List Char) : Option String × Option String :=
  let (query, rest) := match cs with
    | '?' :: rest =>
      let (query, rest) := rest.span (· != '#')
      (some (encode (if special then .specialQuery else .query) query), rest)
    | _ => (none, cs)
  match rest with
  | '#' :: fragment => (query, some (encode .fragment fragment))
  | _ => (query, none)

/-- The encoded user and password; an empty password is none. -/
def parseCredentials (cs : List Char) : String × Option String :=
  match Text.cut? (· == ':') cs with
  | some (user, password) =>
    (encode .userinfo user, if password.isEmpty then none else some (encode .userinfo password))
  | none => (encode .userinfo cs, none)

def parseAfterSlashes (scheme : String) (cs : List Char) : Except ParseError Url := do
  let special := isSpecial scheme
  let (authority, rest) := cs.span (fun c => !endsAuthority special c)
  let (credentials, address) := (cutCredentials? authority).getD ([], authority)
  let (username, password) := parseCredentials credentials
  let (name, portText) := spanHost false address
  let needsHost := special || authority == ['@'] && !rest.isEmpty || !portText.isEmpty ||
    username != "" || password.isSome
  if name.isEmpty && needsHost then throw .emptyHost
  let host ← if special then parseHost name else parseOpaqueHost name
  let (portDigits, rest) :=
    let (digits, oddRest) := (portText.drop 1).span (· != '\\')
    (digits, oddRest ++ rest)
  let port ← parsePort portDigits
  let port := if port = defaultPort? scheme then none else port
  let (path, tail) := rest.span (fun c => !endsPath c)
  let path := match path with
    | [] => if special then [[]] else []
    | c :: cs => parsePath special (if isSlash special c then cs else c :: cs)
  let (query, fragment) := parseTail special tail
  return ⟨scheme, username, password, some host, port, encodePath path, query, fragment⟩

def afterSlash? (cs : List Char) : Option (List Char) :=
  match cs.dropWhile isIgnored with
  | c :: rest => if isSlash true c then some rest else none
  | [] => none

/-- The host and the path of a file after two slashes: `localhost` is no host, and a drive letter
takes the place of one. -/
def parseFileHost (cs : List Char) : Except ParseError (Host × FilePath) := do
  let nowhere := Host.domain ""
  let (name, path) := cs.span (fun c => !isSlash true c)
  let name := significant name
  if isDriveLetter name then return (nowhere, .parse cs)
  else if name.isEmpty then return (nowhere, .parse path)
  else
    let host ← parseHost name
    if host = .domain "localhost" then return (nowhere, .parse path)
    else
      let path := FilePath.parse (path.drop 1)
      return (if path.replacesHost then nowhere else host, path)

def parseFilePlace (cs : List Char) : Except ParseError (Host × FilePath) :=
  match afterSlash? cs with
  | none => .ok (.domain "", .parse cs)
  | some path =>
    match afterSlash? path with
    | none => .ok (.domain "", .parse path)
    | some place => parseFileHost place

/-- Reads what follows the colon of a file URL, its tabs and line breaks included. -/
def parseFile (cs : List Char) : Except ParseError Url := do
  let (place, tail) := cs.span (fun c => !endsPath c)
  let (host, path) ← parseFilePlace place
  let (query, fragment) := parseTail true (significant tail)
  return ⟨"file", "", none, some host, none, encodePath path.segments, query, fragment⟩

def parsePlain (scheme : String) (cs : List Char) : Except ParseError Url :=
  match cs with
  | '/' :: '/' :: rest => parseAfterSlashes scheme rest
  | cs =>
    let (path, tail) := cs.span (fun c => !endsPath c)
    let path := match path with
      | '/' :: rest => encodePath (parsePath false rest)
      | text => .opaqueText (encode .control text)
    let (query, fragment) := parseTail false tail
    .ok ⟨scheme, "", none, none, none, path, query, fragment⟩

def parseChars (cs : List Char) : Except ParseError Url :=
  match takeScheme? (Text.trimBy isPadding cs) with
  | none => .error .relativeWithoutBase
  | some (scheme, rest) =>
    if scheme = "file" then parseFile rest
    else
      let rest := significant rest
      if isSpecial scheme then parseAfterSlashes scheme (rest.dropWhile (isSlash true))
      else parsePlain scheme rest

def parse (text : String) : Except ParseError Url := parseChars text.toList

end ToolView.Url
