/-! Finite doubles in exact arithmetic. A double is a sign, an integer of at most 53 bits and a
power of two; rounding is to the nearest double, a tie going to the even mantissa. -/

namespace ToolView

abbrev Binary64.mantissaBound : Nat := 9007199254740992

abbrev Binary64.leastNormal : Nat := 4503599627370496

/-- A finite double, `±mantissa * 2 ^ exponent`, in its only canonical form: the mantissa has
exactly 53 bits unless the exponent is the least one. Zero keeps its sign. -/
structure Binary64 where
  negative : Bool
  mantissa : Nat
  exponent : Int
  canonical : mantissa < Binary64.mantissaBound ∧ -1074 ≤ exponent ∧ exponent ≤ 971 ∧
    (exponent = -1074 ∨ Binary64.leastNormal ≤ mantissa)
  deriving DecidableEq

namespace Binary64

def zero (negative : Bool) : Binary64 := ⟨negative, 0, -1074, by decide⟩

instance : Inhabited Binary64 := ⟨zero false⟩

def isZero (x : Binary64) : Bool := x.mantissa == 0

def neg (x : Binary64) : Binary64 := { x with negative := !x.negative }

def ratio (x : Binary64) : Nat × Nat :=
  match x.exponent with
  | .ofNat e => (x.mantissa * Nat.pow 2 e, 1)
  | .negSucc e => (x.mantissa, Nat.pow 2 (e + 1))

/-- The natural nearest to `num / den`, a half going to the even one. -/
def roundDiv (num den : Nat) : Nat :=
  let down := num / den
  let rest := num % den
  if 2 * rest > den ∨ (2 * rest = den ∧ down % 2 = 1) then down + 1 else down

def inUnits (num den : Nat) : Int → Nat × Nat
  | .ofNat e => (num, den * Nat.pow 2 e)
  | .negSucc e => (num * Nat.pow 2 (e + 1), den)

/-- The canonical double with this mantissa, which may be `2 ^ 53`; nothing beyond the range. -/
def ofMantissa? (negative : Bool) (mantissa : Nat) (exponent : Int) : Option Binary64 :=
  let (m, e) :=
    if mantissa = mantissaBound then (leastNormal, exponent + 1) else (mantissa, exponent)
  if h : m < mantissaBound ∧ -1074 ≤ e ∧ e ≤ 971 ∧ (e = -1074 ∨ leastNormal ≤ m) then
    some ⟨negative, m, e, h⟩
  else none

def ofRatio? (negative : Bool) (num den : Nat) : Option Binary64 :=
  if num = 0 then some (zero negative) else
  let guess : Int := max ((num.log2 : Int) - (den.log2 : Int) - 53) (-1074)
  let (n, d) := inUnits num den guess
  let exponent := if n / d < mantissaBound then guess else guess + 1
  let (n, d) := inUnits num den exponent
  ofMantissa? negative (roundDiv n d) exponent

def ofInt? (n : Int) : Option Binary64 := ofRatio? (n < 0) n.natAbs 1

def mul? (x y : Binary64) : Option Binary64 :=
  ofRatio? (x.negative != y.negative) (x.ratio.1 * y.ratio.1) (x.ratio.2 * y.ratio.2)

def div? (x y : Binary64) : Option Binary64 :=
  ofRatio? (x.negative != y.negative) (x.ratio.1 * y.ratio.2) (x.ratio.2 * y.ratio.1)

def tenTo? (n : Nat) : Option Binary64 := ofRatio? false (Nat.pow 10 n) 1

end Binary64

end ToolView
