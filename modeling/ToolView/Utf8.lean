/-! UTF-8. Decoding tells where the bytes stop being text, and whether they are wrong there or
only end too early. -/

namespace ToolView.Utf8

/-- Why bytes are no text: a wrong sequence, with the length of the part that could begin one,
or an end inside a sequence. -/
inductive DecodeError where
  | invalid (length : Nat) (index : Nat)
  | incomplete (index : Nat)
  deriving DecidableEq

def DecodeError.message : DecodeError → String
  | .invalid length index =>
    "invalid utf-8 sequence of " ++ toString length ++ " bytes from index " ++ toString index
  | .incomplete index => "incomplete utf-8 byte sequence from index " ++ toString index

def encode (cs : List Char) : List UInt8 := cs.flatMap String.utf8EncodeChar

def secondRange (first : UInt8) : UInt8 × UInt8 :=
  if first = 0xE0 then (0xA0, 0xBF)
  else if first = 0xED then (0x80, 0x9F)
  else if first = 0xF0 then (0x90, 0xBF)
  else if first = 0xF4 then (0x80, 0x8F)
  else (0x80, 0xBF)

def continues (first second : UInt8) : Bool :=
  (secondRange first).1 ≤ second && second ≤ (secondRange first).2

def isTail (b : UInt8) : Bool := 0x80 ≤ b && b ≤ 0xBF

def tailBits (b : UInt8) : Nat := b.toNat % 64

def decodeFrom (index : Nat) : List UInt8 → Except DecodeError (List Char)
  | [] => .ok []
  | a :: as =>
    if a < 0x80 then do
      return Char.ofNat a.toNat :: (← decodeFrom (index + 1) as)
    else if 0xC2 ≤ a ∧ a ≤ 0xDF then
      match as with
      | [] => .error (.incomplete index)
      | b :: bs =>
        if !isTail b then .error (.invalid 1 index) else do
        return Char.ofNat (a.toNat % 32 * 64 + tailBits b) :: (← decodeFrom (index + 2) bs)
    else if 0xE0 ≤ a ∧ a ≤ 0xEF then
      match as with
      | [] => .error (.incomplete index)
      | b :: bs =>
        if !continues a b then .error (.invalid 1 index) else
        match bs with
        | [] => .error (.incomplete index)
        | c :: cs =>
          if !isTail c then .error (.invalid 2 index) else do
          return Char.ofNat (a.toNat % 16 * 4096 + tailBits b * 64 + tailBits c) ::
            (← decodeFrom (index + 3) cs)
    else if 0xF0 ≤ a ∧ a ≤ 0xF4 then
      match as with
      | [] => .error (.incomplete index)
      | b :: bs =>
        if !continues a b then .error (.invalid 1 index) else
        match bs with
        | [] => .error (.incomplete index)
        | c :: cs =>
          if !isTail c then .error (.invalid 2 index) else
          match cs with
          | [] => .error (.incomplete index)
          | d :: ds =>
            if !isTail d then .error (.invalid 3 index) else do
            return Char.ofNat
                (a.toNat % 8 * 262144 + tailBits b * 4096 + tailBits c * 64 + tailBits d) ::
              (← decodeFrom (index + 4) ds)
    else .error (.invalid 1 index)

def decode (bytes : List UInt8) : Except DecodeError (List Char) := decodeFrom 0 bytes

end ToolView.Utf8
