import ToolView.Domain
import ToolView.Text.Blank
import ToolView.Text.Digits
import ToolView.Url
import ToolView.Url.Percent

/-! Reading the host of a URL: an IPv6 address in brackets, an IPv4 address where the last label
is a number, a domain name, or for other schemes any text without forbidden signs. -/

namespace ToolView.Url

/-- A label of an IPv4 address: hexadecimal after `0x`, octal after another leading zero. -/
def ipv4Number? : List Char → Option Nat
  | [] => none
  | '0' :: 'x' :: rest | '0' :: 'X' :: rest => Text.naturalIn? 16 rest
  | '0' :: d :: rest => Text.naturalIn? 8 (d :: rest)
  | cs => Text.naturalIn? 10 cs

/-- The labels of a name, without the empty one after a dot at the end. -/
def labels (name : List Char) : List (List Char) :=
  match (Text.splitBy (· == '.') name).reverse with
  | [] :: rest => rest.reverse
  | all => all.reverse

/-- Whether the last label is a number, so that the name can only be an IPv4 address. -/
def endsInNumber (name : List Char) : Bool :=
  match (labels name).getLast? with
  | some last => (!last.isEmpty && last.all (·.isDigit)) || (ipv4Number? last).isSome
  | none => false

/-- The address that numbers stand for: all but the last are one byte each, the last fills the
rest. -/
def ipv4Of? (numbers : List Nat) : Option Nat :=
  match numbers.reverse with
  | [] => none
  | last :: before =>
    if 4 ≤ before.length ∨ Nat.pow 256 (4 - before.length) ≤ last ∨ before.any (255 < ·) then none
    else
      let weighted := before.reverse.zip [16777216, 65536, 256]
      some (weighted.foldl (fun sum (n, w) => sum + n * w) last)

def parseIpv4 (name : List Char) : Except ParseError Host :=
  match (labels name).mapM ipv4Number? with
  | some numbers =>
    match ipv4Of? numbers with
    | some address => .ok (.ipv4 address)
    | none => .error .invalidIpv4
  | none => .error .invalidIpv4

/-- A number of a dotted quad: at most 255, without leading zeros. -/
def quadNumber? (cs : List Char) : Option Nat := do
  let n ← Text.naturalIn? 10 cs
  match cs with
  | [] => none
  | '0' :: _ :: _ => none
  | _ => if n ≤ 255 then some n else none

/-- Pieces of an IPv6 address between colons; the last may be a dotted quad, which is two. -/
def ipv6Pieces? : List (List Char) → Option (List Nat)
  | [] => some []
  | [last] =>
    if last.contains '.' then
      match (Text.splitBy (· == '.') last).mapM quadNumber? with
      | some [a, b, c, d] => some [a * 256 + b, c * 256 + d]
      | _ => none
    else (piece? last).map ([·])
  | p :: ps => do return (← piece? p) :: (← ipv6Pieces? ps)
where
  piece? (cs : List Char) : Option Nat :=
    if cs.isEmpty ∨ 4 < cs.length then none else Text.naturalIn? 16 cs

def cutDoubleColon? : List Char → Option (List Char × List Char)
  | [] => none
  | ':' :: ':' :: rest => some ([], rest)
  | c :: rest => (cutDoubleColon? rest).map fun (before, after) => (c :: before, after)

def sidePieces? (cs : List Char) : Option (List Nat) :=
  if cs.isEmpty then some [] else ipv6Pieces? (Text.splitBy (· == ':') cs)

def ipv6Of? (cs : List Char) : Option (List Nat) :=
  match cutDoubleColon? cs with
  | none => do
    let pieces ← ipv6Pieces? (Text.splitBy (· == ':') cs)
    if pieces.length = 8 then some pieces else none
  | some (before, after) => do
    if before.contains '.' then none
    let left ← sidePieces? before
    let right ← sidePieces? after
    if left.length + right.length ≤ 7 then
      some (left ++ List.replicate (8 - left.length - right.length) 0 ++ right)
    else none

def parseIpv6 (rest : List Char) : Except ParseError Host :=
  match rest.reverse with
  | ']' :: inner =>
    match ipv6Of? inner.reverse with
    | some pieces => .ok (.ipv6 pieces)
    | none => .error .invalidIpv6
  | _ => .error .invalidIpv6

def isForbiddenInHost (c : Char) : Bool :=
  ['\x00', '\t', '\n', '\r', ' ', '#', '/', ':', '<', '>', '?', '@', '[', '\\', ']', '^',
    '|'].contains c

/-- Reads the host of a web address. What looks like an IPv4 address is read in the domain name, so
its digits may be written in any form that a name allows. -/
def parseHost (cs : List Char) : Except ParseError Host :=
  match cs with
  | '[' :: rest => parseIpv6 rest
  | cs =>
    match Domain.ofBytes? (percentDecode (Utf8.encode cs)) with
    | none => .error .invalidDomain
    | some name =>
      if name.isEmpty then .error .emptyHost
      else if endsInNumber name then parseIpv4 name
      else .ok (.domain (String.ofList name))

def parseOpaqueHost (cs : List Char) : Except ParseError Host :=
  match cs with
  | '[' :: rest => parseIpv6 rest
  | cs =>
    if cs.any isForbiddenInHost then .error .invalidHostCharacter
    else .ok (.domain (encode .control cs))

end ToolView.Url
