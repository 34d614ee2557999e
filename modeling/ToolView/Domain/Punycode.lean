import ToolView.Text.Blank

/-! Punycode: any text in letters, digits and hyphens. The ASCII characters come first, up to the
last hyphen; what follows says in ascending order which others are put in, and where, as numbers of
digits with a variable weight. Reading and writing agree on the weights by a bias that follows the
sizes of the numbers. -/

namespace ToolView.Domain.Punycode

def digit? (c : Char) : Option Nat :=
  let n := c.toNat
  if 97 ≤ n ∧ n ≤ 122 then some (n - 97)
  else if 65 ≤ n ∧ n ≤ 90 then some (n - 65)
  else if 48 ≤ n ∧ n ≤ 57 then some (n - 22)
  else none

def digit (n : Nat) : Char := if n < 26 then Char.ofNat (n + 97) else Char.ofNat (n + 22)

/-- The least digit that says that another one follows, at a place counted in steps of the base. -/
def threshold (place bias : Nat) : Nat :=
  if place ≤ bias then 1 else if bias + 26 ≤ place then 26 else place - bias

theorem threshold_pos (place bias : Nat) : 0 < threshold place bias := by
  unfold threshold
  repeat' split
  all_goals omega

def firstBias : Nat := 72

def settle (size : Nat) : Nat × Nat :=
  if 455 < size then
    let (count, rest) := settle (size / 35)
    (count + 1, rest)
  else (0, size)
termination_by size
decreasing_by exact Nat.div_lt_self (by omega) (by omega)

/-- The bias after a number; the text has this length with the character that the number puts in. -/
def adapt (number length : Nat) (isFirst : Bool) : Nat :=
  let size := if isFirst then number / 700 else number / 2
  let (count, rest) := settle (size + size / length)
  36 * count + 36 * rest / (rest + 38)

structure Decoder where
  text : List Char
  point : Nat
  bias : Nat
  /-- Where the number that is being read starts to count. -/
  start : Nat
  /-- The number so far, counted from there. -/
  number : Nat
  weight : Nat
  place : Nat
  unfinished : Bool

/-- All numbers on the way are below this one. -/
def limit : Nat := 4294967296

def charOf? (n : Nat) : Option Char :=
  if (Char.ofNat n).toNat = n then some (Char.ofNat n) else none

def Decoder.putIn (d : Decoder) (number : Nat) : Option Decoder := do
  let length := d.text.length + 1
  let point := d.point + number / length
  let c ← charOf? point
  let place := number % length
  let bias := adapt (number - d.start) length (d.start == 0)
  return ⟨d.text.insertIdx place c, point, bias, place + 1, place + 1, 1, 36, false⟩

def Decoder.step (d : Decoder) (c : Char) : Option Decoder := do
  let n ← digit? c
  let number := d.number + n * d.weight
  let least := threshold d.place d.bias
  let weight := d.weight * (36 - least)
  if limit ≤ number then none
  else if n < least then d.putIn number
  else if limit ≤ weight then none
  else some { d with number := number, weight := weight, place := d.place + 36, unfinished := true }

/-- The ASCII characters of a text, and the digits of the others. A hyphen at the front ends no
characters. -/
def cutBasic (cs : List Char) : List Char × List Char :=
  match Text.cut? (· == '-') cs.reverse with
  | some (digits, basic) => if basic.isEmpty then ([], cs) else (basic.reverse, digits.reverse)
  | none => ([], cs)

def decode? (cs : List Char) : Option (List Char) := do
  let (basic, digits) := cutBasic cs
  let d ← digits.foldlM Decoder.step ⟨basic, 128, firstBias, 0, 0, 1, 36, false⟩
  if d.unfinished then none else some d.text

def writeNumber (bias place number : Nat) : List Char :=
  let least := threshold place bias
  if number < least then [digit number]
  else
    digit (least + (number - least) % (36 - least)) ::
      writeNumber bias (place + 36) ((number - least) / (36 - least))
termination_by number
decreasing_by
  have positive := threshold_pos place bias
  exact Nat.lt_of_le_of_lt (Nat.div_le_self _ _) (by omega)

structure Encoder where
  /-- The digits so far, the last first. -/
  digits : List Char
  number : Nat
  bias : Nat
  /-- How many characters the reader has by now. -/
  count : Nat
  isFirst : Bool

def Encoder.pass (point : Nat) (e : Encoder) (c : Char) : Encoder :=
  if c.toNat < point then { e with number := e.number + 1 }
  else if c.toNat = point then
    ⟨(writeNumber e.bias 36 e.number).reverse ++ e.digits, 0,
      adapt e.number (e.count + 1) e.isFirst, e.count + 1, false⟩
  else e

def Encoder.putIn (text : List Char) (e : Encoder) (least : Nat) : List Nat → Encoder
  | [] => e
  | point :: points =>
    let e := { e with number := e.number + (point - least) * (e.count + 1) }
    let e := text.foldl (pass point) e
    putIn text { e with number := e.number + 1 } (point + 1) points

def insertPoint (n : Nat) : List Nat → List Nat
  | [] => [n]
  | m :: ms => if n < m then n :: m :: ms else if n = m then m :: ms else m :: insertPoint n ms

def encode (text : List Char) : List Char :=
  let basic := text.filter (·.toNat < 128)
  let points := (text.filter (128 ≤ ·.toNat)).foldl (fun ps c => insertPoint c.toNat ps) []
  let e := Encoder.putIn text ⟨[], 0, firstBias, basic.length, true⟩ 128 points
  (if basic.isEmpty then [] else basic ++ ['-']) ++ e.digits.reverse

end ToolView.Domain.Punycode
