import ToolView.Text.Blank
import ToolView.Url
import ToolView.Url.Percent

/-! Paths of URLs. A path is followed segment by segment: dots move the place, and a segment that
begins with a drive letter is never left again. In a file path a drive letter at the front is
written with a colon, and what stands before it goes. -/

namespace ToolView.Url

/-- Tabs and line breaks, which count nowhere in a URL but after the drive letter of a file. -/
def isIgnored (c : Char) : Bool := c == '\t' || c == '\n' || c == '\r'

def significant (cs : List Char) : List Char := cs.filter (fun c => !isIgnored c)

def isSlash (special : Bool) (c : Char) : Bool := c == '/' || (special && c == '\\')

def isDrive (letter sign : Char) : Bool := letter.isAlpha && (sign == ':' || sign == '|')

def isDriveLetter : List Char → Bool
  | [letter, sign] => isDrive letter sign
  | _ => false

def isOnDrive : List Char → Bool
  | [letter, sign] | letter :: sign :: '\\' :: _ => isDrive letter sign
  | _ => false

def isSingleDot (segment : List Char) : Bool :=
  Text.lower segment ∈ [['.'], ['%', '2', 'e']]

def isDoubleDot (segment : List Char) : Bool :=
  Text.lower segment ∈ [['.', '.'], ['.', '%', '2', 'e'], ['%', '2', 'e', '.'],
    ['%', '2', 'e', '%', '2', 'e']]

/-- The path without its last segment, unless that is on a drive. -/
def shorten (path : List (List Char)) : List (List Char) :=
  if path.getLast?.any isOnDrive then path else path.dropLast

/-- The path after one more segment. The last segment leaves an empty one behind where it only
moves the place. -/
def addSegment (isLast : Bool) (path : List (List Char)) (segment : List Char) :
    List (List Char) :=
  if isDoubleDot segment then
    if isLast then shorten path ++ [[]] else shorten path
  else if isSingleDot segment then
    if isLast then path ++ [[]] else path
  else path ++ [segment]

def followSegments (path : List (List Char)) : List (List Char) → List (List Char)
  | [] => path
  | [last] => addSegment true path last
  | segment :: rest => followSegments (addSegment false path segment) rest

def parsePath (special : Bool) (cs : List Char) : List (List Char) :=
  followSegments [] (Text.splitBy (isSlash special) cs)

structure FilePath where
  segments : List (List Char)
  replacesHost : Bool
  deriving DecidableEq

namespace FilePath

/-- A drive letter with a colon, and what follows it in its segment after a tab or line break. -/
def cutDrive? (segment : List Char) : Option (List Char × List Char) :=
  match segment.dropWhile isIgnored with
  | letter :: rest =>
    match rest.dropWhile isIgnored with
    | ':' :: gap :: rest =>
      if letter.isAlpha && isIgnored gap && !(significant rest).isEmpty then
        some ([letter, ':'], significant rest)
      else none
    | _ => none
  | [] => none

def start (isLast : Bool) (segment : List Char) : FilePath :=
  match cutDrive? segment with
  | some (drive, rest) => ⟨[drive, rest], false⟩
  | none =>
    let segment := significant segment
    if isDriveLetter segment then ⟨[segment.take 1 ++ [':']], true⟩
    else ⟨addSegment isLast [] segment, false⟩

def add (isLast : Bool) (p : FilePath) (segment : List Char) : FilePath :=
  if p.segments.isEmpty then start isLast segment
  else { p with segments := addSegment isLast p.segments (significant segment) }

def follow (p : FilePath) : List (List Char) → FilePath
  | [] => p
  | [last] => add true p last
  | segment :: rest => follow (add false p segment) rest

/-- Drops empty segments at the front, but never the last one. -/
def dropEmptyFront : List (List Char) → List (List Char)
  | [] :: next :: rest => dropEmptyFront (next :: rest)
  | path => path

/-- The path of a file, which begins after its first slash and still has its tabs and line
breaks. -/
def parse (cs : List Char) : FilePath :=
  let p := follow ⟨[], false⟩ (Text.splitBy (isSlash true) cs)
  { p with segments := dropEmptyFront p.segments }

end FilePath

def encodePath (path : List (List Char)) : Path :=
  .segments (path.map (encode .path))

end ToolView.Url
