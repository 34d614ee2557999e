import ToolView.Utf8

/-! Percent-encoding: a byte as a percent sign and two digits. Each part of a URL has its own set
of ASCII characters that are encoded; controls and all other characters always are. -/

namespace ToolView.Url

inductive Part where
  | control
  | fragment
  | query
  | specialQuery
  | path
  | userinfo
  deriving DecidableEq

def Part.encoded : Part → List Char
  | .control => []
  | .fragment => [' ', '"', '<', '>', '\x60']
  | .query => [' ', '"', '#', '<', '>']
  | .specialQuery => [' ', '"', '#', '<', '>', '\'']
  | .path => [' ', '"', '<', '>', '\x60', '#', '?', '\x7b', '\x7d']
  | .userinfo =>
    [' ', '"', '<', '>', '\x60', '#', '?', '\x7b', '\x7d', '/', ':', ';', '=', '@', '[', '\\', ']',
      '^', '|']

def upperHex (n : Nat) : Char := if n < 10 then Char.ofNat (48 + n) else Char.ofNat (55 + n)

def percentByte (b : UInt8) : List Char := ['%', upperHex (b.toNat / 16), upperHex (b.toNat % 16)]

def encodeChar (part : Part) (c : Char) : List Char :=
  if c.toNat < 32 ∨ 126 < c.toNat ∨ c ∈ part.encoded then
    (String.utf8EncodeChar c).flatMap percentByte
  else [c]

def encode (part : Part) (cs : List Char) : String := String.ofList (cs.flatMap (encodeChar part))

def hexValue? (b : UInt8) : Option Nat :=
  if 48 ≤ b ∧ b ≤ 57 then some (b.toNat - 48)
  else if 97 ≤ b ∧ b ≤ 102 then some (b.toNat - 87)
  else if 65 ≤ b ∧ b ≤ 70 then some (b.toNat - 55)
  else none

/-- The bytes with every well-formed escape replaced by its byte. -/
def percentDecode : List UInt8 → List UInt8
  | [] => []
  | [a] => [a]
  | [a, b] => [a, b]
  | a :: b :: c :: rest =>
    if a = 37 then
      match hexValue? b, hexValue? c with
      | some high, some low => UInt8.ofNat (high * 16 + low) :: percentDecode rest
      | _, _ => a :: percentDecode (b :: c :: rest)
    else a :: percentDecode (b :: c :: rest)

end ToolView.Url
