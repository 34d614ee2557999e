import ToolView.Domain.Mapping

/-! The characters that a domain name may hold: all but those that the standard for international
names refuses, and those for which others are read. A character without a meaning yet is not
refused. -/

namespace ToolView.Domain

def refusedLines : List String :=
  ["80-9F 600-605 61C 6DD 70F 890-891 8E2 1680 200E-200F 2024-2026 2028-202E 2066-2069 2488-249B",
   "2FF0-2FFF 31EF 33C2 33C7 33D8 E000-F8FF FE12 FE19 FE30 FE52 FFF9-FFFD 110BD 110CD 13430-1343F",
   "1F100 E0001 E0020-E007F F0000-FFFFD 100000-10FFFD"]

def refusedTable : List (Span Unit) := Span.ofLines (fun _ => some ()) refusedLines

def isForbidden (c : Char) : Bool :=
  c.toNat ≤ 32 || c.toNat == 127 ||
    ['%', '#', '/', ':', '<', '>', '?', '@', '[', '\\', ']', '^', '|'].contains c

def isRefused (c : Char) : Bool :=
  if c.toNat < 128 then isForbidden c else (Span.find? refusedTable c).isSome

def isAllowed (c : Char) : Bool := !isRefused c && readChar c == [c]

end ToolView.Domain
