import ToolView.Json.Token

/-! Drafts: JSON text as far as it can be read. Members keep the order of the text and may repeat
a key, and the place where the text stops being JSON is a leaf of its own, so that what stands
before the fault can still be used. A draft without such a leaf is the whole text. -/

namespace ToolView.Json

/-- What a text holds, as far as it is JSON. -/
inductive Draft where
  | null
  | bool (value : Bool)
  | num (value : Option Number)
  | str (value : Option String)
  | arr (items : List Draft)
  | obj (members : List (String × Draft))
  /-- The value of a member whose key is not to be read. -/
  | unkeyed (value : Draft)
  /-- The text is not JSON from here on. -/
  | broken

namespace Draft

instance : Inhabited Draft := ⟨.broken⟩

/-- An open array or object, what it holds so far in reverse. -/
inductive Frame where
  | items (done : List Draft)
  | members (done : List (String × Draft))
  | member (done : List (String × Draft)) (key : Option String)

inductive Expect where
  | value
  | valueOrEnd
  | key
  | keyOrEnd
  | colon
  | commaOrEnd
  deriving DecidableEq

inductive Assembly where
  | reading (stack : List Frame) (expect : Expect)
  | complete (draft : Draft)
  | trailing (draft : Draft)
  | stopped (draft : Draft)

def keyed (key : Option String) (value : Draft) : String × Draft :=
  match key with
  | some key => (key, value)
  | none => ("", .unkeyed value)

def closeAround (last : Draft) : List Frame → Draft
  | [] => last
  | .items done :: outer => closeAround (.arr (last :: done).reverse) outer
  | .members done :: outer => closeAround (.obj (keyed none last :: done).reverse) outer
  | .member done key :: outer => closeAround (.obj (keyed key last :: done).reverse) outer

def place (value : Draft) : List Frame → Assembly
  | [] => .complete value
  | .items done :: outer => .reading (.items (value :: done) :: outer) .commaOrEnd
  | .member done key :: outer => .reading (.members (keyed key value :: done) :: outer) .commaOrEnd
  | stack@(.members _ :: _) => .stopped (closeAround .broken stack)

def ofToken? : Token → Option Draft
  | .null => some .null
  | .bool b => some (.bool b)
  | .num n => some (.num n)
  | .str s => some (.str s)
  | _ => none

def beginValue (stack : List Frame) (t : Token) : Assembly :=
  match t with
  | .beginArray => .reading (.items [] :: stack) .valueOrEnd
  | .beginObject => .reading (.members [] :: stack) .keyOrEnd
  | t =>
    match ofToken? t with
    | some value => place value stack
    | none => .stopped (closeAround .broken stack)

def Assembly.step : Assembly → Token → Assembly
  | .reading stack expect, t =>
    match expect, t, stack with
    | .valueOrEnd, .endArray, .items done :: outer => place (.arr done.reverse) outer
    | .value, t, stack | .valueOrEnd, t, stack => beginValue stack t
    | .key, .str key, .members done :: outer => .reading (.member done key :: outer) .colon
    | .keyOrEnd, .str key, .members done :: outer => .reading (.member done key :: outer) .colon
    | .keyOrEnd, .endObject, .members done :: outer => place (.obj done.reverse) outer
    | .colon, .colon, stack => .reading stack .value
    | .commaOrEnd, .comma, stack@(.items _ :: _) => .reading stack .value
    | .commaOrEnd, .comma, stack@(.members _ :: _) => .reading stack .key
    | .commaOrEnd, .endArray, .items done :: outer => place (.arr done.reverse) outer
    | .commaOrEnd, .endObject, .members done :: outer => place (.obj done.reverse) outer
    | _, _, stack => .stopped (closeAround .broken stack)
  | .complete draft, _ => .trailing draft
  | .trailing draft, _ => .trailing draft
  | .stopped draft, _ => .stopped draft

def Assembly.finish : Assembly → Draft × Bool
  | .reading stack _ => (closeAround .broken stack, false)
  | .complete draft => (draft, false)
  | .trailing draft => (draft, true)
  | .stopped draft => (draft, false)

def read (chars : List Char) : Draft × Bool :=
  ((tokens chars).foldl Assembly.step (.reading [] .value)).finish

mutual

/-- Whether the text was JSON to its end, whatever its numbers and strings stand for. -/
def isWhole : Draft → Bool
  | .broken => false
  | .unkeyed value => value.isWhole
  | .arr items => allWhole items
  | .obj members => membersWhole members
  | _ => true

def allWhole : List Draft → Bool
  | [] => true
  | item :: items => item.isWhole && allWhole items

def membersWhole : List (String × Draft) → Bool
  | [] => true
  | (_, value) :: members => value.isWhole && membersWhole members

end

mutual

/-- The value of a draft with at most this many arrays and objects inside one another. Of two
members with one key the later one counts. -/
def toJson? (depth : Nat) : Draft → Option Json
  | .null => some .null
  | .bool b => some (.bool b)
  | .num n => n.map .num
  | .str s => s.map .str
  | .arr items =>
    match depth with
    | 0 => none
    | depth + 1 => (itemsToJson? depth items).map .arr
  | .obj members =>
    match depth with
    | 0 => none
    | depth + 1 => (membersToJson? depth members).map fun ms => ofObject (Dict.ofList ms)
  | .unkeyed _ => none
  | .broken => none

def itemsToJson? (depth : Nat) : List Draft → Option (List Json)
  | [] => some []
  | item :: items => do return (← toJson? depth item) :: (← itemsToJson? depth items)

def membersToJson? (depth : Nat) : List (String × Draft) → Option (List (String × Json))
  | [] => some []
  | (key, value) :: members =>
    do return (key, ← toJson? depth value) :: (← membersToJson? depth members)

end

end Draft

def depthLimit : Nat := 127

def readWithin? (depth : Nat) (chars : List Char) : Option Json :=
  match Draft.read chars with
  | (draft, false) => draft.toJson? depth
  | (_, true) => none

end ToolView.Json
