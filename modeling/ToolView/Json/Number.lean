import ToolView.Json
import ToolView.Binary64.Shortest

/-! How JSON numbers are spelt. An integer is its decimal digits; a double has the fewest digits
that read back, positional from `0.00001` up to sixteen digits before the point and with an
exponent elsewhere. Reading gathers the digits of a literal while they fit 64 bits and scales
the result by one rounded power of ten, so a long literal may miss the nearest double by one. -/

namespace ToolView.Number

structure Literal where
  negative : Bool
  whole : List Nat
  fraction : List Nat
  power : Option Int

/-- The digits before the point as far as they fit 64 bits, and how many are left over. -/
def gatherWhole (digits : List Nat) : Nat × Nat :=
  digits.foldl (fun (value, dropped) d =>
    if dropped = 0 ∧ value * 10 + d < UInt64.size then (value * 10 + d, 0)
    else (value, dropped + 1))
    (0, 0)

/-- The digits after the point, added as far as they fit 64 bits; the count of those used. -/
def gatherFraction (value : Nat) : List Nat → Nat × Nat
  | [] => (value, 0)
  | d :: ds =>
    if value * 10 + d < UInt64.size then
      let (v, used) := gatherFraction (value * 10 + d) ds
      (v, used + 1)
    else (value, 0)

def stepLimit : Nat := 308

/-- A value of 64 bits times a power of ten, every step rounded; nothing beyond the range. -/
def scale? (value : Nat) (power : Int) : Option Binary64 := do
  let x ← Binary64.ofRatio? false value 1
  match power with
  | .ofNat p =>
    if p ≤ stepLimit then Binary64.mul? x (← Binary64.tenTo? p)
    else if value = 0 then some x
    else none
  | .negSucc p =>
    let p := p + 1
    if p ≤ stepLimit then Binary64.div? x (← Binary64.tenTo? p)
    else if p ≤ 2 * stepLimit then
      Binary64.div? (← Binary64.div? x (← Binary64.tenTo? stepLimit))
        (← Binary64.tenTo? (p - stepLimit))
    else some (.zero false)

def signed (negative : Bool) (x : Binary64) : Number := .double (if negative then x.neg else x)

def ofLiteral? (l : Literal) : Option Number :=
  let (value, dropped) := gatherWhole l.whole
  match l.fraction, l.power, dropped with
  | [], none, 0 =>
    if l.negative then
      if 0 < value ∧ FitsNumber (-value) then ofInt? (-value)
      else (Binary64.ofRatio? true value 1).map .double
    else ofInt? value
  | fraction, power, dropped =>
    let (value, used) := gatherFraction value fraction
    (scale? value ((dropped : Int) - used + power.getD 0)).map (signed l.negative)

/-- The characters of a decimal number: positional for exponents from -5 to 15. -/
def writeDecimal (d : Binary64.Decimal) : List Char :=
  let digits := Nat.toDigits 10 d.digits
  match d.exponent with
  | .ofNat e =>
    if e ≤ 15 then
      if digits.length ≤ e + 1 then
        digits ++ List.replicate (e + 1 - digits.length) '0' ++ ['.', '0']
      else digits.take (e + 1) ++ '.' :: digits.drop (e + 1)
    else mantissa digits ++ 'e' :: '+' :: Nat.toDigits 10 e
  | .negSucc e =>
    if e < 5 then '0' :: '.' :: List.replicate e '0' ++ digits
    else mantissa digits ++ 'e' :: '-' :: Nat.toDigits 10 (e + 1)
where
  mantissa : List Char → List Char
    | [] => []
    | [d] => [d]
    | d :: ds => d :: '.' :: ds

def write : Number → List Char
  | .int value _ =>
    if value < 0 then '-' :: Nat.toDigits 10 value.natAbs else Nat.toDigits 10 value.natAbs
  | .double x =>
    if x.negative then '-' :: writeDecimal x.shortest else writeDecimal x.shortest

end ToolView.Number
