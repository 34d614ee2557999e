import ToolView.Json.Draft
import ToolView.Json.Text
import ToolView.Text.Quoted
import ToolView.Url

/-! Reading typed data from JSON. A decoder works on any tree that can be looked at one level at a
time: a finished value, or the draft of a text, where it meets the members in the order of the
text and the place where the text is broken. A record is described field by field; the
description reads it from an object or, by position, from an array. -/

namespace ToolView

inductive Found where
  | null
  | bool (value : Bool)
  | num (value : Number)
  | str (value : String)
  | sequence
  | map
  deriving DecidableEq

inductive DecodeError where
  | malformed
  | invalidType (found : Found) (expected : String)
  | invalidValue (found : Found) (expected : String)
  | invalidLength (length : Nat) (expected : String)
  | missingField (name : String)
  | duplicateField (name : String)
  | unknownVariant (name : String) (known : List String)
  | noVariant (type : String)
  | invalidUrl (cause : Url.ParseError) (text : String)
  deriving DecidableEq

def Found.message : Found → String
  | .null => "null"
  | .bool true => "boolean \x60true\x60"
  | .bool false => "boolean \x60false\x60"
  | .num (.int value fits) =>
    "integer \x60" ++ String.ofList (Number.int value fits).write ++ "\x60"
  | .num (.double x) =>
    "floating point \x60" ++ String.ofList (Number.double x).write ++ "\x60"
  | .str s => "string " ++ Text.quote s
  | .sequence => "sequence"
  | .map => "map"

/-- Names in backquotes, joined the way a sentence lists them. -/
def listNames : List String → String
  | [] => "there are no variants"
  | [a] => "expected \x60" ++ a ++ "\x60"
  | [a, b] => "expected \x60" ++ a ++ "\x60 or \x60" ++ b ++ "\x60"
  | many => "expected one of " ++ ", ".intercalate (many.map fun n => "\x60" ++ n ++ "\x60")

def DecodeError.message : DecodeError → String
  | .malformed => "malformed JSON"
  | .invalidType found expected => "invalid type: " ++ found.message ++ ", expected " ++ expected
  | .invalidValue found expected => "invalid value: " ++ found.message ++ ", expected " ++ expected
  | .invalidLength length expected =>
    "invalid length " ++ toString length ++ ", expected " ++ expected
  | .missingField name => "missing field \x60" ++ name ++ "\x60"
  | .duplicateField name => "duplicate field \x60" ++ name ++ "\x60"
  | .unknownVariant name known => "unknown variant \x60" ++ name ++ "\x60, " ++ listNames known
  | .noVariant type => "data did not match any variant of untagged enum " ++ type
  | .invalidUrl cause text => cause.message ++ ": " ++ Text.quote text

inductive Shape (ν : Type) where
  | null
  | bool (value : Bool)
  | num (value : Number)
  | str (value : String)
  | arr (items : List ν)
  | obj (members : List (String × ν))

def Shape.found {ν : Type} : Shape ν → Found
  | .null => .null
  | .bool b => .bool b
  | .num n => .num n
  | .str s => .str s
  | .arr _ => .sequence
  | .obj _ => .map

class Tree (ν : Type) where
  shape : ν → Except DecodeError (Shape ν)
  key : String × ν → Except DecodeError String
  skip : ν → Except DecodeError Unit
  /-- Whether a closing bracket is looked for as soon as all that is asked for has been read, so
  that anything else in its place is a fault of the text. -/
  closesEarly : Bool

namespace Json

instance : Tree Json where
  shape
    | .null => .ok .null
    | .bool b => .ok (.bool b)
    | .num n => .ok (.num n)
    | .str s => .ok (.str s)
    | .arr items => .ok (.arr items)
    | .obj members => .ok (.obj members)
  key member := .ok member.1
  skip _ := .ok ()
  closesEarly := false

instance : Tree Draft where
  shape
    | .null => .ok .null
    | .bool b => .ok (.bool b)
    | .num (some n) => .ok (.num n)
    | .str (some s) => .ok (.str s)
    | .arr items => .ok (.arr items)
    | .obj members => .ok (.obj members)
    | .num none | .str none | .unkeyed _ | .broken => .error .malformed
  key
    | (_, .unkeyed _) => .error .malformed
    | (key, _) => .ok key
  skip draft := if draft.isWhole then .ok () else .error .malformed
  closesEarly := true

end Json

namespace Decode

variable {ν : Type} [Tree ν] {α β : Type}

def string (tree : ν) : Except DecodeError String := do
  match ← Tree.shape tree with
  | .str s => return s
  | other => throw (.invalidType other.found "a string")

def bool (tree : ν) : Except DecodeError Bool := do
  match ← Tree.shape tree with
  | .bool b => return b
  | other => throw (.invalidType other.found "a boolean")

def double (tree : ν) : Except DecodeError Binary64 := do
  match ← Tree.shape tree with
  | .num n => return n.toDouble
  | other => throw (.invalidType other.found "f64")

def integer (least greatest : Int) (expected : String) (tree : ν) : Except DecodeError Int := do
  match ← Tree.shape tree with
  | .num (.int value fits) =>
    if least ≤ value ∧ value ≤ greatest then return value
    else throw (.invalidValue (.num (.int value fits)) expected)
  | other => throw (.invalidType other.found expected)

def int32 (tree : ν) : Except DecodeError Int32 :=
  (integer (-2147483648) 2147483647 "i32" tree).map Int32.ofInt

def int64 (tree : ν) : Except DecodeError Int64 :=
  (integer (-9223372036854775808) 9223372036854775807 "i64" tree).map Int64.ofInt

def uint32 (tree : ν) : Except DecodeError UInt32 :=
  (integer 0 4294967295 "u32" tree).map fun n => UInt32.ofNat n.toNat

def list (item : ν → Except DecodeError α) (tree : ν) : Except DecodeError (List α) := do
  match ← Tree.shape tree with
  | .arr items => items.mapM item
  | other => throw (.invalidType other.found "a sequence")

def optional (value : ν → Except DecodeError α) (tree : ν) : Except DecodeError (Option α) := do
  match ← Tree.shape tree with
  | .null => return none
  | _ => some <$> value tree

def object (json : Json) : Except DecodeError Object :=
  match json.object? with
  | some o => .ok o
  | none => do throw (.invalidType (← Tree.shape json).found "a map")

def json (json : Json) : Except DecodeError Json := .ok json

def unit (tree : ν) : Except DecodeError Unit := do
  match ← Tree.shape tree with
  | .null => return ()
  | other => throw (.invalidType other.found "unit")

def named (names : List (String × α)) (name : String) : Except DecodeError α :=
  match names.lookup name with
  | some value => .ok value
  | none => .error (.unknownVariant name (names.map (·.1)))

/-- Reads one of several names: as a text, or as the only key of an object whose value, read by
`content`, says nothing. -/
def nameWith (content : ν → Except DecodeError Unit) (names : List (String × α)) (tree : ν) :
    Except DecodeError α := do
  match ← Tree.shape tree with
  | .str s => named names s
  | .obj [] =>
    throw (if Tree.closesEarly ν then .malformed
      else .invalidValue .map "map with a single key")
  | .obj (member :: others) =>
    if !Tree.closesEarly ν && !others.isEmpty then
      throw (.invalidValue .map "map with a single key")
    let value ← named names (← Tree.key member)
    content member.2
    if others.isEmpty then return value else throw .malformed
  | other =>
    throw (if Tree.closesEarly ν then .malformed else .invalidType other.found "string or map")

def name (names : List (String × α)) (tree : ν) : Except DecodeError α := nameWith unit names tree

end Decode

/-- The result of reading a field, or several, from the members of an object: a value, the first
place where one goes wrong, or a field that is not there. -/
inductive Outcome (α : Type) where
  | value (value : α)
  | wrong (place : Nat) (error : DecodeError)
  | missing (name : String)

namespace Outcome

variable {α β : Type}

/-- Two outcomes in one. What goes wrong earlier counts, and what is wrong counts before what is
missing. -/
def both (f : Outcome (α → β)) (x : Outcome α) : Outcome β :=
  match f, x with
  | .value f, .value x => .value (f x)
  | .wrong p e, .wrong q d => if p ≤ q then .wrong p e else .wrong q d
  | .wrong p e, _ => .wrong p e
  | _, .wrong q d => .wrong q d
  | .missing name, _ => .missing name
  | _, .missing name => .missing name

def map (f : α → β) : Outcome α → Outcome β
  | .value x => .value (f x)
  | .wrong p e => .wrong p e
  | .missing name => .missing name

def toExcept : Outcome α → Except DecodeError α
  | .value x => .ok x
  | .wrong _ e => .error e
  | .missing name => .error (.missingField name)

end Outcome

structure Fields (ν : Type) (α : Type) where
  names : List String
  ofMembers : List (String × ν) → Outcome α
  /-- Takes the fields from the front of items, of which the first has this index; too few items
  give the index of the first one missing. -/
  ofItems : Nat → List ν → Except (Nat ⊕ DecodeError) (α × List ν)

namespace Fields

variable {ν : Type} [Tree ν] {α β : Type}

instance : Pure (Fields ν) where
  pure x := ⟨[], fun _ => .value x, fun _ items => .ok (x, items)⟩

instance : Functor (Fields ν) where
  map f x :=
    { names := x.names
      ofMembers := fun members => (x.ofMembers members).map f
      ofItems := fun index items => do
        let (v, items) ← x.ofItems index items
        return (f v, items) }

instance : Seq (Fields ν) where
  seq f x :=
    let x := x ()
    { names := f.names ++ x.names
      ofMembers := fun members => .both (f.ofMembers members) (x.ofMembers members)
      ofItems := fun index items => do
        let (g, items) ← f.ofItems index items
        let (v, items) ← x.ofItems (index + f.names.length) items
        return (g v, items) }

def find? (name : String) : Nat → List (String × ν) → Option (Nat × ν × List (String × ν))
  | _, [] => none
  | place, (key, value) :: rest =>
    if key = name then some (place, value, rest) else find? name (place + 1) rest

/-- A field by its name. It may have a value for an object without it and one for an array that
ends before it. -/
def field (name : String) (decode : ν → Except DecodeError α) (absent short : Option α) :
    Fields ν α where
  names := [name]
  ofMembers members :=
    match find? name 0 members with
    | none =>
      match absent with
      | some value => .value value
      | none => .missing name
    | some (place, tree, rest) =>
      match decode tree with
      | .error e => .wrong place e
      | .ok value =>
        match find? name (place + 1) rest with
        | some (again, _) => .wrong again (.duplicateField name)
        | none => .value value
  ofItems index
    | [] =>
      match short with
      | some value => .ok (value, [])
      | none => .error (.inl index)
    | item :: items =>
      match decode item with
      | .ok value => .ok (value, items)
      | .error e => .error (.inr e)

def required (name : String) (decode : ν → Except DecodeError α) : Fields ν α :=
  field name decode none none

/-- A field that an object may leave out or set to `null`. -/
def optional (name : String) (decode : ν → Except DecodeError α) : Fields ν (Option α) :=
  field name (Decode.optional decode) (some none) none

def withDefault (name : String) (decode : ν → Except DecodeError α) (value : α) : Fields ν α :=
  field name decode (some value) (some value)

/-- The first member that is no field and cannot be passed over. -/
def strayFault (names : List String) : Nat → List (String × ν) → Outcome Unit
  | _, [] => .value ()
  | place, member :: rest =>
    match Tree.key member with
    | .error e => .wrong place e
    | .ok key =>
      if key ∈ names then strayFault names (place + 1) rest
      else match Tree.skip member.2 with
        | .error e => .wrong place e
        | .ok () => strayFault names (place + 1) rest

def readMembers (fields : Fields ν α) (members : List (String × ν)) : Except DecodeError α :=
  (((fields.ofMembers members).map fun value () => value).both
    (strayFault fields.names 0 members)).toExcept

def countElements (n : Nat) : String :=
  if n = 1 then "1 element" else toString n ++ " elements"

/-- Reads the fields from the items of an array that holds nothing else; `surplus` words what was
expected where it does. -/
def readItems (fields : Fields ν α) (what : String) (surplus : Nat → String) (items : List ν) :
    Except DecodeError α :=
  match fields.ofItems 0 items with
  | .ok (value, []) => .ok value
  | .ok (_, rest) =>
    .error (if Tree.closesEarly ν then .malformed
      else .invalidLength items.length (surplus (items.length - rest.length)))
  | .error (.inl index) =>
    .error (.invalidLength index (what ++ " with " ++ countElements fields.names.length))
  | .error (.inr e) => .error e

end Fields

namespace Decode

variable {ν : Type} [Tree ν] {α : Type}

/-- Reads a record from an object, or from an array of its fields in order. -/
def record (name : String) (fields : Fields ν α) (tree : ν) : Except DecodeError α := do
  match ← Tree.shape tree with
  | .obj members => fields.readMembers members
  | .arr items => fields.readItems ("struct " ++ name) (fun _ => "fewer elements in array") items
  | other => throw (.invalidType other.found ("struct " ++ name))

def membersOf (what : String) (tree : ν) : Except DecodeError (List (String × ν)) := do
  match ← Tree.shape tree with
  | .obj members => return members
  | other => throw (.invalidType other.found what)

def pair (tree : ν) : Except DecodeError (String × String) := do
  match ← Tree.shape tree with
  | .arr [] => throw (.invalidLength 0 "an array of length 2")
  | .arr [a] =>
    discard (string a)
    throw (.invalidLength 1 "an array of length 2")
  | .arr [a, b] => return (← string a, ← string b)
  | .arr (a :: b :: more) =>
    discard (string a)
    discard (string b)
    throw (.invalidLength (more.length + 2) "fewer elements in array")
  | other => throw (.invalidType other.found "an array of length 2")

/-- What a tagged value holds beside its tag: members, or the items after it. -/
inductive Body where
  | members (members : List (String × Json))
  | items (items : List Json)

def body (what : String) (fields : Fields Json α) : Body → Except DecodeError α
  | .members members => fields.readMembers members
  | .items items =>
    fields.readItems what (fun n => Fields.countElements n ++ " in sequence") items

/-- Reads a value that says which kind it is by the name at `type`, or by its first item. -/
def tagged (type : String) (kinds : List (String × (Body → Except DecodeError α))) (json : Json) :
    Except DecodeError α :=
  match json with
  | .obj members =>
    match Entries.get? "type" members with
    | none => .error (.missingField "type")
    | some tag => do (← kind tag) (.members (Entries.erase "type" members))
  | .arr [] => .error (.missingField "type")
  | .arr (tag :: items) => do (← kind tag) (.items items)
  | other => do throw (.invalidType (← Tree.shape other).found ("internally tagged enum " ++ type))
where
  kind (tag : Json) : Except DecodeError (Body → Except DecodeError α) :=
    match tag with
    | .str s => named kinds s
    | other => do throw (.invalidType (← Tree.shape other).found "variant identifier")

/-- Reads a value as the first of several types that it fits. -/
def firstOf (type : String) (decoders : List (Json → Except DecodeError α)) (json : Json) :
    Except DecodeError α :=
  match decoders.findSome? fun decode => (decode json).toOption with
  | some value => .ok value
  | none => .error (.noVariant type)

end Decode

class JsonForm (α : Type) where
  encode : α → Json
  decode : Json → Except DecodeError α

namespace JsonForm

instance : JsonForm Json := ⟨id, Decode.json⟩
instance : JsonForm Object := ⟨.ofObject, Decode.object⟩
instance : JsonForm Bool := ⟨.bool, Decode.bool⟩
instance : JsonForm String := ⟨.str, Decode.string⟩

instance {α : Type} [JsonForm α] : JsonForm (Option α) :=
  ⟨fun value => (value.map encode).getD .null, Decode.optional decode⟩

instance {α : Type} [JsonForm α] : JsonForm (List α) :=
  ⟨fun items => .arr (items.map encode), Decode.list decode⟩

end JsonForm

end ToolView
