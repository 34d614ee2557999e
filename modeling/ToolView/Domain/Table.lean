import ToolView.Text.Blank
import ToolView.Text.Digits

/-! Tables of characters, kept as text. Each word of a table is about one character or about all
from a first to a last one, by their numbers in hexadecimal; what the table says of them follows an
equals sign. The words are in ascending order. -/

namespace ToolView.Domain

structure Span (α : Type) where
  first : Nat
  last : Nat
  value : α

namespace Span

variable {α : Type}

def ofWord? (value : List Char → Option α) (word : List Char) : Option (Span α) := do
  let (range, said) := (Text.cut? (· == '=') word).getD (word, [])
  let (first, last) := (Text.cut? (· == '-') range).getD (range, range)
  return ⟨← Text.naturalIn? 16 first, ← Text.naturalIn? 16 last, ← value said⟩

def ofLines (value : List Char → Option α) (lines : List String) : List (Span α) :=
  lines.flatMap fun line => (Text.splitBy (· == ' ') line.toList).filterMap (ofWord? value)

/-- What a table says of a character: the first span that does not end before it is the only one
that can hold it. -/
def find? (table : List (Span α)) (c : Char) : Option α :=
  match table.find? (fun s => c.toNat ≤ s.last) with
  | some s => if s.first ≤ c.toNat then some s.value else none
  | none => none

end Span

end ToolView.Domain
