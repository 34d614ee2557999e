/-! Base64 with the standard alphabet. Padding is required, and the bits that the last symbol
does not need must be zero, so every byte string has one spelling. -/

namespace ToolView.Base64

inductive DecodeError where
  | invalidSymbol (byte : UInt8) (offset : Nat)
  | invalidLength (length : Nat)
  | invalidLastSymbol (byte : UInt8) (offset : Nat)
  | invalidPadding
  deriving DecidableEq

def DecodeError.message : DecodeError → String
  | .invalidSymbol byte offset =>
    "Invalid symbol " ++ toString byte.toNat ++ ", offset " ++ toString offset ++ "."
  | .invalidLength length => "Invalid input length: " ++ toString length
  | .invalidLastSymbol byte offset =>
    "Invalid last symbol " ++ toString byte.toNat ++ ", offset " ++ toString offset ++ "."
  | .invalidPadding => "Invalid padding"

def pad : UInt8 := 61

def symbol (n : Nat) : UInt8 :=
  if n < 26 then UInt8.ofNat (65 + n)
  else if n < 52 then UInt8.ofNat (71 + n)
  else if n < 62 then UInt8.ofNat (n - 4)
  else if n = 62 then 43
  else 47

def value? (b : UInt8) : Option Nat :=
  if 65 ≤ b ∧ b ≤ 90 then some (b.toNat - 65)
  else if 97 ≤ b ∧ b ≤ 122 then some (b.toNat - 71)
  else if 48 ≤ b ∧ b ≤ 57 then some (b.toNat + 4)
  else if b = 43 then some 62
  else if b = 47 then some 63
  else none

def encode : List UInt8 → List UInt8
  | a :: b :: c :: rest =>
    symbol (a.toNat / 4) :: symbol (a.toNat % 4 * 16 + b.toNat / 16) ::
      symbol (b.toNat % 16 * 4 + c.toNat / 64) :: symbol (c.toNat % 64) :: encode rest
  | [a, b] =>
    [symbol (a.toNat / 4), symbol (a.toNat % 4 * 16 + b.toNat / 16), symbol (b.toNat % 16 * 4), pad]
  | [a] => [symbol (a.toNat / 4), symbol (a.toNat % 4 * 16), pad, pad]
  | [] => []

/-- The bytes of symbol values: three for four values, and one less for each value missing. -/
def join : List Nat → List UInt8
  | a :: b :: c :: d :: rest =>
    UInt8.ofNat (a * 4 + b / 16) :: UInt8.ofNat (b % 16 * 16 + c / 4) ::
      UInt8.ofNat (c % 4 * 64 + d) :: join rest
  | [a, b, c] => [UInt8.ofNat (a * 4 + b / 16), UInt8.ofNat (b % 16 * 16 + c / 4)]
  | [a, b] => [UInt8.ofNat (a * 4 + b / 16)]
  | _ => []

def values (offset : Nat) : List UInt8 → Except DecodeError (List Nat)
  | [] => .ok []
  | b :: bs =>
    match value? b with
    | some v => do return v :: (← values (offset + 1) bs)
    | none => .error (.invalidSymbol b offset)

/-- The values in the last group, and how much padding follows them. A group has no padding
before its third place, and nothing else after padding. -/
def lastValues (offset : Nat) : (place : Nat) → List UInt8 → Except DecodeError (List Nat × Nat)
  | _, [] => .ok ([], 0)
  | place, b :: bs =>
    if b = pad then
      if place < 2 ∨ bs.any (· != pad) then .error (.invalidSymbol pad (offset + place))
      else .ok ([], bs.length + 1)
    else match value? b with
      | some v => do
        let (vs, padding) ← lastValues offset (place + 1) bs
        return (v :: vs, padding)
      | none => .error (.invalidSymbol b (offset + place))

def spareBitsClear : List Nat → Bool
  | [_, b] => b % 16 == 0
  | [_, _, c] => c % 4 == 0
  | _ => true

def decodeLast (offset : Nat) (group : List UInt8) : Except DecodeError (List UInt8) := do
  let (vs, padding) ← lastValues offset 0 group
  if group.isEmpty then return []
  else if vs.length < 2 then throw (.invalidLength (offset + vs.length))
  else if vs.length + padding ≠ 4 then throw .invalidPadding
  else if !spareBitsClear vs then
    throw (.invalidLastSymbol (symbol (vs.getLast?.getD 0)) (offset + vs.length - 1))
  else return join vs

/-- The bytes that a text stands for. A stray last byte is reported before anything else. -/
def decode (text : List UInt8) : Except DecodeError (List UInt8) :=
  let extra := text.length % 4
  let offset := text.length - (if extra = 0 then min 4 text.length else extra)
  match extra, text.getLast? with
  | 1, some b =>
    if b ≠ pad ∧ (value? b).isNone then .error (.invalidSymbol b (text.length - 1))
    else go offset
  | _, _ => go offset
where
  go (offset : Nat) : Except DecodeError (List UInt8) := do
    let vs ← values 0 (text.take offset)
    let last ← decodeLast offset (text.drop offset)
    return join vs ++ last

end ToolView.Base64
