import ToolView.Binary64

/-! The shortest decimal that reads back as a given double. For one digit, two digits and so on
the two decimals around the double are tried; the first length with a decimal inside the
interval of reals that round to the double wins, and of two decimals the nearer one. -/

namespace ToolView.Binary64

/-- A decimal `d₀.d₁d₂… * 10 ^ exponent`, its digits as one natural. -/
structure Decimal where
  digits : Nat
  exponent : Int
  deriving DecidableEq

def leadingExponent (num den : Nat) : Int :=
  if den ≤ num then ((Nat.toDigits 10 (num / den)).length : Int) - 1
  else
    match (List.range 400).find? (fun j => den ≤ num * Nat.pow 10 j) with
    | some j => -(j : Int)
    | none => 0

/-- The reals that round to a double, in quarters of its unit: the least, the greatest, and
whether both ends belong to it. -/
def roundingInterval (x : Binary64) : Nat × Nat × Bool :=
  let low := if x.mantissa = leastNormal ∧ x.exponent ≠ -1074 then 4 * x.mantissa - 1
    else 4 * x.mantissa - 2
  (low, 4 * x.mantissa + 2, x.mantissa % 2 == 0)

def roundsTo (x : Binary64) (digits : Nat) (place : Int) : Bool :=
  let (low, high, closed) := roundingInterval x
  let (tenUp, tenDown) := match place with
    | .ofNat e => (Nat.pow 10 e, 1)
    | .negSucc e => (1, Nat.pow 10 (e + 1))
  let (twoUp, twoDown) := match x.exponent - 2 with
    | .ofNat e => (Nat.pow 2 e, 1)
    | .negSucc e => (1, Nat.pow 2 (e + 1))
  let value := digits * tenUp * twoDown
  let least := low * twoUp * tenDown
  let greatest := high * twoUp * tenDown
  if closed then least ≤ value ∧ value ≤ greatest else least < value ∧ value < greatest

def withDigits? (x : Binary64) (count : Nat) : Option Decimal :=
  let (num, den) := x.ratio
  let lead := leadingExponent num den
  let place := lead + 1 - count
  let (n, d) := match place with
    | .ofNat e => (num, den * Nat.pow 10 e)
    | .negSucc e => (num * Nat.pow 10 (e + 1), den)
  let below := n / d
  let pick (digits : Nat) : Decimal :=
    if digits = Nat.pow 10 count then ⟨Nat.pow 10 (count - 1), lead + 1⟩ else ⟨digits, lead⟩
  match roundsTo x below place, roundsTo x (below + 1) place with
  | true, true => some (pick (roundDiv n d))
  | true, false => some (pick below)
  | false, true => some (pick (below + 1))
  | false, false => none

def shortest (x : Binary64) : Decimal :=
  if x.isZero then ⟨0, 0⟩
  else ((List.range 17).findSome? (fun n => withDigits? x (n + 1))).getD ⟨0, 0⟩

end ToolView.Binary64
