import ToolView.Dict
import ToolView.Binary64

/-! JSON values. A number is an exact integer where it fits 64 bits and a double elsewhere; the
members of an object are kept as a list, in the order of their keys wherever this library builds
one. `Object` is an object on its own, with that order in its type. -/

namespace ToolView

abbrev FitsNumber (value : Int) : Prop :=
  -9223372036854775808 ≤ value ∧ value < 18446744073709551616

/-- A JSON number: an integer of 64 bits, signed or unsigned, or a finite double. -/
inductive Number where
  | int (value : Int) (fits : FitsNumber value)
  | double (value : Binary64)
  deriving DecidableEq

inductive Json where
  | null
  | bool (value : Bool)
  | num (value : Number)
  | str (value : String)
  | arr (items : List Json)
  | obj (members : List (String × Json))

abbrev Object := Dict Json

namespace Number

def ofInt? (value : Int) : Option Number :=
  if fits : FitsNumber value then some (.int value fits) else none

def toDouble : Number → Binary64
  | .int value _ => (Binary64.ofInt? value).getD (.zero false)
  | .double value => value

end Number

namespace Json

instance : Inhabited Json := ⟨.null⟩

mutual

def decEq : (a b : Json) → Decidable (a = b)
  | .null, .null => isTrue rfl
  | .bool a, .bool b => decidable_of_iff (a = b) (by simp)
  | .num a, .num b => decidable_of_iff (a = b) (by simp)
  | .str a, .str b => decidable_of_iff (a = b) (by simp)
  | .arr a, .arr b => @decidable_of_iff _ (a = b) (by simp) (decEqItems a b)
  | .obj a, .obj b => @decidable_of_iff _ (a = b) (by simp) (decEqMembers a b)
  | .null, .bool _ | .null, .num _ | .null, .str _ | .null, .arr _ | .null, .obj _
  | .bool _, .null | .bool _, .num _ | .bool _, .str _ | .bool _, .arr _ | .bool _, .obj _
  | .num _, .null | .num _, .bool _ | .num _, .str _ | .num _, .arr _ | .num _, .obj _
  | .str _, .null | .str _, .bool _ | .str _, .num _ | .str _, .arr _ | .str _, .obj _
  | .arr _, .null | .arr _, .bool _ | .arr _, .num _ | .arr _, .str _ | .arr _, .obj _
  | .obj _, .null | .obj _, .bool _ | .obj _, .num _ | .obj _, .str _ | .obj _, .arr _ =>
    isFalse (by simp)

def decEqItems : (as bs : List Json) → Decidable (as = bs)
  | [], [] => isTrue rfl
  | [], _ :: _ | _ :: _, [] => isFalse (by simp)
  | a :: as, b :: bs =>
    match decEq a b, decEqItems as bs with
    | isTrue h, isTrue hs => isTrue (by rw [h, hs])
    | isFalse h, _ => isFalse (by simp [h])
    | _, isFalse hs => isFalse (by simp [hs])

def decEqMembers : (as bs : List (String × Json)) → Decidable (as = bs)
  | [], [] => isTrue rfl
  | [], _ :: _ | _ :: _, [] => isFalse (by simp)
  | (k, a) :: as, (l, b) :: bs =>
    match instDecidableEqString k l, decEq a b, decEqMembers as bs with
    | isTrue hk, isTrue h, isTrue hs => isTrue (by rw [hk, h, hs])
    | isFalse hk, _, _ => isFalse (by simp [hk])
    | _, isFalse h, _ => isFalse (by simp [h])
    | _, _, isFalse hs => isFalse (by simp [hs])

end

instance : DecidableEq Json := decEq

def ofObject (o : Object) : Json := .obj o.entries

instance : Coe Object Json := ⟨ofObject⟩

/-- The members of an object, in order; a member given twice keeps its last value. -/
def object? : Json → Option Object
  | .obj members =>
    some (if h : Entries.Ascending members then ⟨members, h⟩ else Dict.ofList members)
  | _ => none

def string? : Json → Option String
  | .str s => some s
  | _ => none

def get? (key : String) : Json → Option Json
  | .obj members => Entries.get? key members
  | _ => none

/-- The object with these members as they stand; one given without a value is left out. -/
def inOrder (members : List (String × Option Json)) : Json :=
  .obj (members.filterMap fun m => m.2.map (m.1, ·))

/-- The object with these members by key; one given without a value is left out. -/
def record (members : List (String × Option Json)) : Json :=
  ofObject (Dict.ofList (members.filterMap fun m => m.2.map (m.1, ·)))

def int32 (n : Int32) : Json :=
  .num (.int n.toInt ⟨by have := n.le_toInt; omega, by have := n.toInt_lt; omega⟩)

def int64 (n : Int64) : Json :=
  .num (.int n.toInt ⟨n.le_toInt, by have := n.toInt_lt; omega⟩)

def uint32 (n : UInt32) : Json :=
  .num (.int n.toNat ⟨by omega, by have := n.toNat_lt; omega⟩)

def strings (items : List String) : Json := .arr (items.map .str)

@[simp] theorem object?_ofObject (o : Object) : (ofObject o).object? = some o := by
  simp [ofObject, object?, o.ascending]

end Json

end ToolView
