import Mathlib
import ToolView.Json.Text
import ToolView.Proofs.Json.Number

/-! How what is written is taken apart into tokens. A string and a fixed word are scanned back at
once; a number ends only with what follows it, which in the text of a value is a comma, a closing
bracket, or nothing. -/

namespace ToolView.Json

namespace Scan

/-- The tokens that end with these characters or with the text after them. -/
def read : Scan → List Char → List Token
  | s,[] => s.finish
  | s,c :: cs => (s.step c).2 ++ read (s.step c).1 cs

private def advance (before : Scan × List Token) (c : Char) : Scan × List Token :=
  ((before.1.step c).1,(before.1.step c).2.reverse ++ before.2)

theorem tokens_eq (chars : List Char) : tokens chars = Scan.between.read chars := by
  suffices gathered : ∀ before : Scan × List Token,
      ((chars.foldl advance before).1.finish.reverse ++ (chars.foldl advance before).2).reverse =
        before.2.reverse ++ before.1.read chars from
    gathered (.between,[])
  induction chars with
  | nil =>
    intro before
    simp [read]
  | cons c chars ih =>
    intro before
    rw [List.foldl_cons,ih]
    simp [advance,read]

private theorem hexDigit?_hexDigit : ∀ n < 16, hexDigit? (hexDigit n) = some n := by decide

theorem read_writeChar (units : List ℕ) (c : Char) (rest : List Char) :
    (Scan.text units).read (writeChar c ++ rest) = (Scan.text (c.toNat :: units)).read rest := by
  rw [writeChar]
  split_ifs with quote backslash lf cr tab backspace feed control
  · subst quote; rfl
  · subst backslash; rfl
  · subst lf; rfl
  · subst cr; rfl
  · subst tab; rfl
  · rw [backspace]; rfl
  · rw [feed]; rfl
  · have high := hexDigit?_hexDigit (c.toNat / 16) (by omega)
    have low := hexDigit?_hexDigit (c.toNat % 16) (by omega)
    have back : c.toNat / 16 * 16 + c.toNat % 16 = c.toNat := Nat.div_add_mod' _ _
    have zero : hexDigit? '0' = some 0 := rfl
    simp [read,step,zero,high,low,back]
  · simp [read,step,quote,backslash,control]

theorem read_writeChars (units : List ℕ) (cs rest : List Char) :
    (Scan.text units).read (cs.flatMap writeChar ++ rest) =
      (Scan.text ((cs.map Char.toNat).reverse ++ units)).read rest := by
  induction cs generalizing units with
  | nil => rfl
  | cons c cs ih =>
    rw [List.flatMap_cons,List.append_assoc,read_writeChar,ih]
    simp

end Scan

/-- No half of a pair is a character, so characters are their own code units here. -/
theorem joinUnits_toNat (cs : List Char) : joinUnits (cs.map Char.toNat) = some cs := by
  induction cs with
  | nil => rfl
  | cons c cs ih =>
    have valid : c.toNat < 0xD800 ∨ 0xDFFF < c.toNat ∧ c.toNat < 0x110000 := c.valid
    rw [List.map_cons,joinUnits.eq_def]
    dsimp only
    rw [if_neg (by omega),if_neg (by omega),ih,Option.map_some,Char.ofNat_toNat]

namespace Scan

theorem read_writeString (s : String) (rest : List Char) :
    Scan.between.read (writeString s ++ rest) = .str (some s) :: Scan.between.read rest := by
  have opened : Scan.between.read (writeString s ++ rest) =
      (Scan.text []).read (s.toList.flatMap writeChar ++ '"' :: rest) := by
    rw [writeString]
    simp [read,step,start]
  have token : stringToken (s.toList.map Char.toNat).reverse = .str (some s) := by
    rw [stringToken,List.reverse_reverse,joinUnits_toNat,Option.map_some,String.ofList_toList]
  rw [opened,read_writeChars,List.append_nil,read,step,if_pos rfl,token]
  rfl

/-- What may stand after a value: nothing, a comma, or a closing bracket. -/
def Ends (rest : List Char) : Prop := ∀ c ∈ rest.head?, c = ',' ∨ c = ']' ∨ c = '\x7d'

/-- A number is recognised by the first character that its literal may have. -/
theorem start_number {c : Char} {part : NumberPart} (begins : NumberPart.sign.next? c = some part) :
    start c = (.number part [c],[]) := by
  by_cases zero : c = '0'
  · subst zero
    cases begins
    rfl
  · have digit : (digit? c).isSome = true := by
      by_contra other
      simp [NumberPart.next?,zero,other] at begins
    have outside : ∀ d ∈ [' ','\n','\t','\r','[',']','\x7b','\x7d',',',':','"','n','t','f','-'],
        digit? d = none := by
      intro d member
      fin_cases member <;> rfl
    have some : digit? c ≠ none := Option.isSome_iff_ne_none.mp digit
    have other := mt (outside c) some
    obtain rfl : NumberPart.whole = part := by simpa [NumberPart.next?,zero,digit] using begins
    simp only [List.mem_cons,List.not_mem_nil,not_or] at other
    simp [start,other,zero,digit]

theorem read_follow {part last : NumberPart} {cs : List Char} (follows : part.follow? cs = some last)
    (chars rest : List Char) :
    (Scan.number part chars).read (cs ++ rest) = (Scan.number last (cs.reverse ++ chars)).read rest := by
  induction cs generalizing part chars with
  | nil => cases follows; rfl
  | cons c cs ih =>
    rw [NumberPart.follow?_cons] at follows
    obtain ⟨next,first,follows⟩ := Option.bind_eq_some_iff.mp follows
    rw [List.cons_append,read,step,first,ih follows]
    simp

/-- A number is told of with the first character after it. -/
theorem read_ended {last : NumberPart} (whole : last.endsBefore none) {rest : List Char}
    (ends : Ends rest) (chars : List Char) :
    (Scan.number last chars).read rest = numberToken chars :: Scan.between.read rest := by
  cases rest with
  | nil => rw [read,finish,if_pos whole]; rfl
  | cons c rest =>
    have stops : last.next? c = none ∧ last.endsBefore (some c) = true := by
      rcases ends c rfl with rfl | rfl | rfl <;> cases last <;>
        first | exact ⟨rfl,rfl⟩ | cases whole
    rw [read,step,stops.1]
    dsimp only
    rw [if_pos stops.2]
    rfl

/-- In front of what may follow a value, a number is one token. -/
theorem read_number (n : Number) {rest : List Char} (ends : Ends rest) :
    Scan.between.read (n.write ++ rest) =
      .num (Number.ofLiteral? (literalOf n.write)) :: Scan.between.read rest := by
  obtain ⟨cs,⟨last,follows,whole⟩,same⟩ := write_literal n
  have token : numberToken n.write.reverse = .num (Number.ofLiteral? (literalOf n.write)) := by
    rw [numberToken,List.reverse_reverse]
  rw [← token]
  rcases same with same | same
  · obtain ⟨c,cs,rfl⟩ : ∃ c rest, cs = c :: rest := by
      cases cs with
      | nil => cases follows; cases whole
      | cons c cs => exact ⟨c,cs,rfl⟩
    rw [NumberPart.follow?_cons] at follows
    obtain ⟨part,first,follows⟩ := Option.bind_eq_some_iff.mp follows
    rw [same,List.cons_append,read,step,start_number first,List.nil_append,read_follow follows,
      read_ended whole ends,List.reverse_cons]
  · have signed : Scan.between.step '-' = (.number .sign ['-'],[]) := rfl
    rw [same,List.cons_append,read,signed,List.nil_append,read_follow follows,
      read_ended whole ends,List.reverse_cons]

end Scan

end ToolView.Json
