import ToolView.Domain.Allowed
import ToolView.Domain.Composition
import ToolView.Domain.Direction
import ToolView.Domain.Joining
import ToolView.Domain.Mapping
import ToolView.Domain.Punycode
import ToolView.Utf8

/-! Domain names in ASCII. A name is read without regard to case and special forms, its labels are
checked in the characters that they show, and each that shows others than ASCII is written in
Punycode behind a mark. -/

namespace ToolView.Domain

def codeMark : List Char := ['x', 'n', '-', '-']

def decodeLimit : Nat := 2000

def encodeLimit : Nat := 1000

def isAscii (cs : List Char) : Bool := cs.all (·.toNat < 128)

/-- The characters that the code of a label stands for. At least one of them is no ASCII character,
and they are in the form that reading them gives, so that no two codes show the same. -/
def decodeLabel? (code : List Char) : Option (List Char) := do
  if code.isEmpty || code.getLast? == some '-' || !isAscii code || decodeLimit < code.length then
    none
  let label ← Punycode.decode? code
  if compose label == label then some label else none

def isLabel (label : List Char) : Bool :=
  label.all isAllowed && !label.head?.any (fun c => (markClass? c).isSome) &&
    joinersFit [] label && (isAscii label || label.length ≤ encodeLimit)

def shown? (label : List Char) : Option (List Char) := do
  let shown ←
    if codeMark.isPrefixOf label then decodeLabel? (label.drop codeMark.length) else some label
  if isLabel shown then some shown else none

def writeLabel (label : List Char) : List Char :=
  if isAscii label then label else codeMark ++ Punycode.encode label

def ofBytes? (bytes : List UInt8) : Option (List Char) := do
  let text ← (Utf8.decode bytes).toOption
  let labels := Text.splitBy (· == '.') (compose (text.flatMap readChar))
  let shown ← labels.mapM shown?
  if shown.any (·.any isRightToLeft) && !shown.all isSteady then none
  return ['.'].intercalate (labels.map writeLabel)

end ToolView.Domain
