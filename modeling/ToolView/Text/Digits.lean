/-! Digits and the naturals that they spell in a base of at most sixteen. -/

namespace ToolView.Text

def digitBelow? (base : Nat) (c : Char) : Option Nat :=
  let n := c.toNat
  let value :=
    if 48 ≤ n ∧ n ≤ 57 then n - 48
    else if 97 ≤ n ∧ n ≤ 102 then n - 87
    else if 65 ≤ n ∧ n ≤ 70 then n - 55
    else base
  if value < base then some value else none

/-- The natural that digits of a base spell; none at all spell zero. -/
def naturalIn? (base : Nat) (cs : List Char) : Option Nat :=
  cs.foldlM (fun n c => (digitBelow? base c).map (n * base + ·)) 0

end ToolView.Text
