import ToolView.Json.Number

/-! The tokens of JSON text. The scanner takes one character at a time and never looks ahead; a
number ends at the first character that cannot continue it. Where no token can be made of the
text the last token is `fault`, and nothing after it is read. -/

namespace ToolView.Json

/-- A token. A number too large for a double and a string with an unpaired surrogate are tokens
without a value: whether they matter depends on whether anyone asks for the value. -/
inductive Token where
  | beginArray
  | endArray
  | beginObject
  | endObject
  | comma
  | colon
  | null
  | bool (value : Bool)
  | num (value : Option Number)
  | str (value : Option String)
  | fault
  deriving DecidableEq

inductive NumberPart where
  | sign
  | zero
  | whole
  | point
  | fraction
  | mark
  | markSign
  | power
  deriving DecidableEq

inductive Scan where
  | between
  | word (rest : List Char) (token : Token)
  /-- In a string, with the code units read so far, the last one first. -/
  | text (units : List Nat)
  | escape (units : List Nat)
  /-- In a four digit escape, with the count of digits still to come and their value so far. -/
  | hex (units : List Nat) (left : Nat) (value : Nat)
  | number (part : NumberPart) (chars : List Char)
  | failed
  deriving DecidableEq

def digit? (c : Char) : Option Nat := if '0' ≤ c ∧ c ≤ '9' then some (c.toNat - 48) else none

def hexDigit? (c : Char) : Option Nat :=
  if '0' ≤ c ∧ c ≤ '9' then some (c.toNat - 48)
  else if 'a' ≤ c ∧ c ≤ 'f' then some (c.toNat - 87)
  else if 'A' ≤ c ∧ c ≤ 'F' then some (c.toNat - 55)
  else none

/-- The text of code units, a high surrogate joined with the low one after it; nothing where a
surrogate stands alone. -/
def joinUnits : List Nat → Option (List Char)
  | [] => some []
  | u :: us =>
    if 0xD800 ≤ u ∧ u < 0xDC00 then
      match us with
      | l :: rest =>
        if 0xDC00 ≤ l ∧ l < 0xE000 then
          (joinUnits rest).map (Char.ofNat (0x10000 + (u - 0xD800) * 0x400 + (l - 0xDC00)) :: ·)
        else none
      | [] => none
    else if 0xDC00 ≤ u ∧ u < 0xE000 then none
    else (joinUnits us).map (Char.ofNat u :: ·)

def stringToken (units : List Nat) : Token :=
  .str ((joinUnits units.reverse).map String.ofList)

def NumberPart.next? (part : NumberPart) (c : Char) : Option NumberPart :=
  let isDigit := (digit? c).isSome
  let isMark := c = 'e' ∨ c = 'E'
  match part with
  | .sign => if c = '0' then some .zero else if isDigit then some .whole else none
  | .zero => if c = '.' then some .point else if isMark then some .mark else none
  | .whole =>
    if isDigit then some .whole else if c = '.' then some .point
    else if isMark then some .mark else none
  | .point => if isDigit then some .fraction else none
  | .fraction => if isDigit then some .fraction else if isMark then some .mark else none
  | .mark =>
    if c = '+' ∨ c = '-' then some .markSign else if isDigit then some .power else none
  | .markSign => if isDigit then some .power else none
  | .power => if isDigit then some .power else none

/-- Whether a number may end here before this character: a digit after a leading zero, and
anything after an unfinished part, is a fault instead. -/
def NumberPart.endsBefore (part : NumberPart) (c : Option Char) : Bool :=
  match part with
  | .zero => (c.bind digit?).isNone
  | .whole | .fraction | .power => true
  | .sign | .point | .mark | .markSign => false

def takeDigits : List Char → List Nat × List Char
  | [] => ([], [])
  | c :: cs =>
    match digit? c with
    | some d => let (ds, rest) := takeDigits cs; (d :: ds, rest)
    | none => ([], c :: cs)

def ofDigits (ds : List Nat) : Nat := ds.foldl (fun n d => n * 10 + d) 0

def literalOf (chars : List Char) : Number.Literal :=
  let (negative, chars) := match chars with
    | '-' :: rest => (true, rest)
    | _ => (false, chars)
  let (whole, chars) := takeDigits chars
  let (fraction, chars) := match chars with
    | '.' :: rest => takeDigits rest
    | _ => ([], chars)
  let power := match chars with
    | [] => none
    | _ :: '-' :: rest => some (-(ofDigits (takeDigits rest).1 : Int))
    | _ :: '+' :: rest => some (ofDigits (takeDigits rest).1 : Int)
    | _ :: rest => some (ofDigits (takeDigits rest).1 : Int)
  ⟨negative, whole, fraction, power⟩

def numberToken (chars : List Char) : Token := .num (Number.ofLiteral? (literalOf chars.reverse))

def Scan.start (c : Char) : Scan × List Token :=
  if c = ' ' ∨ c = '\n' ∨ c = '\t' ∨ c = '\r' then (.between, [])
  else if c = '[' then (.between, [.beginArray])
  else if c = ']' then (.between, [.endArray])
  else if c = '\x7b' then (.between, [.beginObject])
  else if c = '\x7d' then (.between, [.endObject])
  else if c = ',' then (.between, [.comma])
  else if c = ':' then (.between, [.colon])
  else if c = '"' then (.text [], [])
  else if c = 'n' then (.word ['u', 'l', 'l'] .null, [])
  else if c = 't' then (.word ['r', 'u', 'e'] (.bool true), [])
  else if c = 'f' then (.word ['a', 'l', 's', 'e'] (.bool false), [])
  else if c = '-' then (.number .sign [c], [])
  else if c = '0' then (.number .zero [c], [])
  else if (digit? c).isSome then (.number .whole [c], [])
  else (.failed, [.fault])

def shortEscape? (c : Char) : Option Nat :=
  if c = '"' ∨ c = '\\' ∨ c = '/' then some c.toNat
  else if c = 'b' then some 8
  else if c = 'f' then some 12
  else if c = 'n' then some 10
  else if c = 'r' then some 13
  else if c = 't' then some 9
  else none

def Scan.step (s : Scan) (c : Char) : Scan × List Token :=
  match s with
  | .between => start c
  | .word [] token => let (s, ts) := start c; (s, token :: ts)
  | .word (w :: ws) token =>
    if c = w then if ws = [] then (.between, [token]) else (.word ws token, [])
    else (.failed, [.fault])
  | .text units =>
    if c = '"' then (.between, [stringToken units])
    else if c = '\\' then (.escape units, [])
    else if c.toNat < 32 then (.failed, [.fault])
    else (.text (c.toNat :: units), [])
  | .escape units =>
    if c = 'u' then (.hex units 3 0, [])
    else match shortEscape? c with
      | some u => (.text (u :: units), [])
      | none => (.failed, [.fault])
  | .hex units left value =>
    match hexDigit? c with
    | none => (.failed, [.fault])
    | some d =>
      let value := value * 16 + d
      match left with
      | 0 => (.text (value :: units), [])
      | left + 1 => (.hex units left value, [])
  | .number part chars =>
    match part.next? c with
    | some part => (.number part (c :: chars), [])
    | none =>
      if part.endsBefore (some c) then let (s, ts) := start c; (s, numberToken chars :: ts)
      else (.failed, [.fault])
  | .failed => (.failed, [])

def Scan.finish : Scan → List Token
  | .between | .failed => []
  | .word [] token => [token]
  | .number part chars => if part.endsBefore none then [numberToken chars] else [.fault]
  | .word _ _ | .text _ | .escape _ | .hex .. => [.fault]

def tokens (chars : List Char) : List Token :=
  let (s, done) := chars.foldl (fun (s, done) c =>
    let (s, ts) := s.step c
    (s, ts.reverse ++ done)) (Scan.between, [])
  (s.finish.reverse ++ done).reverse

end ToolView.Json
