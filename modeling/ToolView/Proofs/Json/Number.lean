import Mathlib
import ToolView.Json.Token

/-! How numbers are spelt. The spelling of every number is one literal: the scanner goes through it
from part to part and may stop at its end. An integer is what its own literal stands for. -/

namespace ToolView

namespace Json

def AllDigits (cs : List Char) : Prop := ∀ c ∈ cs, (digit? c).isSome

theorem digit?_of_isDigit {c : Char} (digit : c.isDigit) : digit? c = some (c.toNat - 48) := by
  simp only [Char.isDigit,Bool.and_eq_true,decide_eq_true_eq] at digit
  rw [digit?,if_pos]
  exact digit

theorem allDigits_toDigits (n : ℕ) : AllDigits (Nat.toDigits 10 n) := by
  intro c member
  rw [digit?_of_isDigit (Nat.isDigit_of_mem_toDigits (by decide) (by decide) member)]
  rfl

theorem allDigits_replicate_zero (n : ℕ) : AllDigits (List.replicate n '0') := by
  intro c member
  rw [List.eq_of_mem_replicate member]
  rfl

theorem AllDigits.append {cs ds : List Char} (first : AllDigits cs) (second : AllDigits ds) :
    AllDigits (cs ++ ds) := by
  intro c member
  rcases List.mem_append.mp member with inside | inside
  · exact first c inside
  · exact second c inside

/-- The digits of a number begin with a zero for zero alone. -/
theorem head_toDigits {n : ℕ} (positive : n ≠ 0) : (Nat.toDigits 10 n).head? ≠ some '0' := by
  induction n using Nat.strong_induction_on with
  | _ n ih =>
    by_cases small : n < 10
    · rw [Nat.toDigits_of_lt_base small]
      interval_cases n <;> simp_all
    · have ten : 10 ≤ n := not_lt.mp small
      rw [Nat.toDigits_of_base_le (by decide) ten,
        List.head?_append_of_ne_nil _ Nat.toDigits_ne_nil]
      exact ih (n / 10) (by omega) (by omega)

namespace NumberPart

def follow? (part : NumberPart) (cs : List Char) : Option NumberPart := cs.foldlM next? part

theorem follow?_cons (part : NumberPart) (c : Char) (cs : List Char) :
    part.follow? (c :: cs) = (part.next? c).bind (·.follow? cs) := by
  rw [follow?,List.foldlM_cons]
  rfl

theorem follow?_append (part : NumberPart) (cs ds : List Char) :
    part.follow? (cs ++ ds) = (part.follow? cs).bind (·.follow? ds) := by
  rw [follow?,List.foldlM_append]
  rfl

/-- In the middle of digits every digit leads on to digits. -/
theorem follow?_digits {part : NumberPart} (inside : part ∈ [whole,fraction,power])
    {cs : List Char} (digits : AllDigits cs) : part.follow? cs = some part := by
  induction cs with
  | nil => rfl
  | cons c cs ih =>
    obtain ⟨first,rest⟩ := List.forall_mem_cons.mp digits
    have stays : part.next? c = some part := by
      simp only [List.mem_cons,List.not_mem_nil,or_false] at inside
      rcases inside with rfl | rfl | rfl <;> simp [next?,first]
    rw [follow?_cons,stays]
    exact ih rest

/-- Before digits one digit leads to them. -/
theorem follow?_to_digits {part next : NumberPart}
    (before : (part,next) ∈ [(point,fraction),(markSign,power)]) {cs : List Char}
    (some : cs ≠ []) (digits : AllDigits cs) : part.follow? cs = .some next := by
  obtain ⟨c,cs,rfl⟩ := List.exists_cons_of_ne_nil some
  obtain ⟨first,rest⟩ := List.forall_mem_cons.mp digits
  have step : part.next? c = .some next ∧ next ∈ [whole,fraction,power] := by
    simp only [List.mem_cons,List.not_mem_nil,or_false,Prod.mk.injEq] at before
    rcases before with ⟨rfl,rfl⟩ | ⟨rfl,rfl⟩ <;> simp [next?,first]
  rw [follow?_cons,step.1]
  exact follow?_digits step.2 rest

/-- The first digit of a number tells how it goes on. -/
theorem toDigits_eq_cons (n : ℕ) : ∃ c cs, Nat.toDigits 10 n = c :: cs ∧ AllDigits cs ∧
    sign.next? c = some (if n = 0 then zero else whole) := by
  have digits := allDigits_toDigits n
  obtain ⟨c,cs,parts⟩ := List.exists_cons_of_ne_nil (Nat.toDigits_ne_nil (n := n) (b := 10))
  rw [parts] at digits
  obtain ⟨first,rest⟩ := List.forall_mem_cons.mp digits
  refine ⟨c,cs,parts,rest,?_⟩
  by_cases nothing : n = 0
  · subst nothing
    cases parts
    rfl
  · have other : c ≠ '0' := by
      rintro rfl
      exact head_toDigits nothing (by rw [parts]; rfl)
    simp [next?,other,first,nothing]

end NumberPart

/-- A literal without its sign. -/
def IsLiteral (cs : List Char) : Prop :=
  ∃ last, NumberPart.sign.follow? cs = some last ∧ last.endsBefore none = true

open NumberPart

theorem IsLiteral.toDigits (n : ℕ) : IsLiteral (Nat.toDigits 10 n) := by
  obtain ⟨c,cs,parts,digits,first⟩ := toDigits_eq_cons n
  by_cases nothing : n = 0
  · subst nothing
    exact ⟨zero,rfl,rfl⟩
  · rw [if_neg nothing] at first
    refine ⟨whole,?_,rfl⟩
    rw [parts,follow?_cons,first]
    exact follow?_digits (by simp) digits

/-- After its digits a decimal goes on with an exponent. -/
theorem follow?_mantissa (n : ℕ) : ∃ part,
    sign.follow? (Number.writeDecimal.mantissa (Nat.toDigits 10 n)) = some part ∧
      part.next? 'e' = some mark := by
  obtain ⟨c,cs,parts,digits,first⟩ := toDigits_eq_cons n
  obtain ⟨part,first,pointed,marked⟩ : ∃ part, sign.next? c = some part ∧
      part.next? '.' = some point ∧ part.next? 'e' = some mark := by
    rw [first]
    split_ifs
    · exact ⟨zero,rfl,rfl,rfl⟩
    · exact ⟨whole,rfl,rfl,rfl⟩
  rw [parts,Number.writeDecimal.mantissa.eq_def]
  cases cs with
  | nil =>
    refine ⟨part,?_,marked⟩
    rw [follow?_cons,first]
    rfl
  | cons d cs =>
    refine ⟨fraction,?_,rfl⟩
    dsimp only
    rw [follow?_cons,first,Option.bind_some,follow?_cons,pointed,Option.bind_some]
    exact follow?_to_digits (by simp) (List.cons_ne_nil d cs) digits

theorem IsLiteral.scientific (n e : ℕ) {c : Char} (signed : mark.next? c = some markSign) :
    IsLiteral (Number.writeDecimal.mantissa (Nat.toDigits 10 n) ++ 'e' :: c ::
      Nat.toDigits 10 e) := by
  obtain ⟨part,before,marked⟩ := follow?_mantissa n
  have digits : markSign.follow? (Nat.toDigits 10 e) = some power :=
    follow?_to_digits (by simp) Nat.toDigits_ne_nil (allDigits_toDigits e)
  refine ⟨power,?_,rfl⟩
  rw [follow?_append,before,Option.bind_some,follow?_cons,marked,Option.bind_some,follow?_cons,
    signed]
  exact digits

theorem IsLiteral.positional {c : Char} (first : sign.next? c = some whole) {front back : List Char}
    (before : AllDigits front) (nonempty : back ≠ []) (after : AllDigits back) :
    IsLiteral (c :: front ++ '.' :: back) := by
  have pointed : whole.next? '.' = some point := rfl
  refine ⟨fraction,?_,rfl⟩
  rw [List.cons_append,follow?_cons,first,Option.bind_some,follow?_append,
    follow?_digits (by simp) before,Option.bind_some,follow?_cons,pointed]
  exact follow?_to_digits (by simp) nonempty after

/-- A decimal of which zero has no other exponent than zero is spelt as a literal. -/
theorem IsLiteral.writeDecimal {d : Binary64.Decimal} (proper : d.digits = 0 → d.exponent = 0) :
    IsLiteral (Number.writeDecimal d) := by
  obtain ⟨n,exponent⟩ := d
  obtain ⟨c,cs,parts,digits,first⟩ := toDigits_eq_cons n
  unfold Number.writeDecimal
  dsimp only
  cases exponent with
  | ofNat e =>
    dsimp only
    split_ifs with near short
    · by_cases nothing : n = 0
      · obtain rfl : e = 0 := Int.ofNat.inj (proper nothing)
        subst nothing
        exact ⟨fraction,rfl,rfl⟩
      · rw [if_neg nothing] at first
        have zeros := allDigits_replicate_zero (e + 1 - (Nat.toDigits 10 n).length)
        rw [parts] at zeros ⊢
        exact .positional first (digits.append zeros) (List.cons_ne_nil '0' [])
          (allDigits_replicate_zero 1)
    · have long : n ≠ 0 := by
        rintro rfl
        rw [Nat.toDigits_zero] at short
        simp at short
      rw [if_neg long] at first
      have more : cs.drop e ≠ [] := by
        intro none
        have length := congrArg List.length none
        rw [parts] at short
        simp only [List.length_cons,List.length_drop,List.length_nil] at short length
        omega
      rw [parts,List.take_succ_cons,List.drop_succ_cons]
      apply IsLiteral.positional first _ more
      · exact fun c member => digits c (List.mem_of_mem_drop member)
      · exact fun c member => digits c (List.mem_of_mem_take member)
    · exact .scientific n e rfl
  | negSucc e =>
    dsimp only
    split_ifs with near
    · refine ⟨fraction,?_,rfl⟩
      change point.follow? (List.replicate e '0' ++ Nat.toDigits 10 n) = some fraction
      apply follow?_to_digits (by simp)
      · exact List.append_ne_nil_of_right_ne_nil _ Nat.toDigits_ne_nil
      · exact (allDigits_replicate_zero e).append (allDigits_toDigits n)
    · exact .scientific n (e + 1) rfl

end Json

namespace Binary64

/-- Zero is not among the decimals that round to another double. -/
theorem roundsTo_zero {x : Binary64} (some : x.mantissa ≠ 0) (place : ℤ) :
    roundsTo x 0 place = false := by
  have low : 0 < (roundingInterval x).1 := by
    rw [roundingInterval]
    dsimp only
    split_ifs <;> omega
  unfold roundsTo
  generalize roundingInterval x = interval at low
  obtain ⟨least,greatest,closed⟩ := interval
  have positive : 0 < least := low
  cases place <;> cases x.exponent - 2 <;> cases closed <;>
    simp only [Nat.zero_mul,Bool.false_eq_true,if_false,if_true,decide_eq_false_iff_not,
      not_and_or,not_le,not_lt,Nat.pow_eq] <;> left <;> positivity

private theorem roundDiv_ne_zero {n d : ℕ} (some : n / d ≠ 0) : roundDiv n d ≠ 0 := by
  rw [roundDiv]
  split_ifs
  · exact Nat.succ_ne_zero _
  · exact some

theorem digits_withDigits? {x : Binary64} (some : x.mantissa ≠ 0) {count : ℕ} {d : Decimal}
    (found : withDigits? x count = .some d) : d.digits ≠ 0 := by
  have pick {digits : ℕ} (lead : ℤ) (positive : digits ≠ 0) :
      (if digits = Nat.pow 10 count then (⟨Nat.pow 10 (count - 1),lead + 1⟩ : Decimal)
        else ⟨digits,lead⟩).digits ≠ 0 := by
    split_ifs
    · exact (Nat.pow_pos (by decide)).ne'
    · exact positive
  unfold withDigits? at found
  dsimp only at found
  generalize leadingExponent x.ratio.1 x.ratio.2 + 1 - (count : ℤ) = place at found
  cases place <;> dsimp only at found
  all_goals
    split at found
    case h_1 below _ =>
      cases found
      apply pick
      apply roundDiv_ne_zero
      intro zero
      rw [zero,roundsTo_zero some] at below
      cases below
    case h_2 below _ =>
      cases found
      apply pick
      intro zero
      rw [zero,roundsTo_zero some] at below
      cases below
    case h_3 =>
      cases found
      exact pick _ (Nat.succ_ne_zero _)
    case h_4 => cases found

theorem shortest_proper {x : Binary64} (none : x.shortest.digits = 0) :
    x.shortest.exponent = 0 := by
  rw [shortest] at none ⊢
  split_ifs at none ⊢ with zero
  · rfl
  cases found : (List.range 17).findSome? fun n => withDigits? x (n + 1) with
  | none => rfl
  | some d =>
    rw [found] at none
    obtain ⟨n,_,found⟩ := List.exists_of_findSome?_eq_some found
    have some : x.mantissa ≠ 0 := fun same => zero (beq_iff_eq.mpr same)
    exact absurd none (digits_withDigits? some found)

end Binary64

namespace Json

open NumberPart

def Printable (cs : List Char) : Prop := ∀ c ∈ cs, 32 ≤ c.toNat

@[simp] theorem printable_nil : Printable [] := List.forall_mem_nil _

@[simp] theorem printable_cons {c : Char} {cs : List Char} :
    Printable (c :: cs) ↔ 32 ≤ c.toNat ∧ Printable cs := List.forall_mem_cons

@[simp] theorem printable_append {cs ds : List Char} :
    Printable (cs ++ ds) ↔ Printable cs ∧ Printable ds := List.forall_mem_append

/-- A number is spelt as a literal, with a sign before it if it is negative. -/
theorem write_literal (n : Number) :
    ∃ cs, IsLiteral cs ∧ (n.write = cs ∨ n.write = '-' :: cs) := by
  cases n with
  | int value fits =>
    refine ⟨Nat.toDigits 10 value.natAbs,.toDigits _,?_⟩
    rw [Number.write]
    split_ifs
    · exact .inr rfl
    · exact .inl rfl
  | double x =>
    refine ⟨Number.writeDecimal x.shortest,.writeDecimal x.shortest_proper,?_⟩
    rw [Number.write]
    split_ifs
    · exact .inr rfl
    · exact .inl rfl

private theorem printable_of_next? {part next : NumberPart} {c : Char}
    (leads : part.next? c = some next) : 32 ≤ c.toNat := by
  by_contra control
  have plain {d : Char} (printable : 32 ≤ d.toNat) : c ≠ d := by
    rintro rfl
    exact control printable
  have none : digit? c = .none := by
    rw [digit?,if_neg]
    rintro ⟨low,_⟩
    have least : 48 ≤ c.toNat := low
    omega
  have first : c ≠ '0' ∧ c ≠ '.' ∧ c ≠ 'e' ∧ c ≠ 'E' ∧ c ≠ '+' ∧ c ≠ '-' := by
    refine ⟨plain ?_,plain ?_,plain ?_,plain ?_,plain ?_,plain ?_⟩ <;> decide
  cases part <;> simp [next?,none,first] at leads

theorem printable_of_follow? {cs : List Char} {part last : NumberPart}
    (follows : part.follow? cs = some last) : Printable cs := by
  induction cs generalizing part with
  | nil => exact printable_nil
  | cons c cs ih =>
    rw [follow?_cons] at follows
    obtain ⟨next,first,rest⟩ := Option.bind_eq_some_iff.mp follows
    exact printable_cons.mpr ⟨printable_of_next? first,ih rest⟩

theorem printable_number (n : Number) : Printable n.write := by
  obtain ⟨cs,⟨last,follows,_⟩,same | same⟩ := write_literal n <;> rw [same]
  · exact printable_of_follow? follows
  · exact printable_cons.mpr ⟨by decide,printable_of_follow? follows⟩

theorem takeDigits_of_allDigits {cs : List Char} (digits : AllDigits cs) :
    takeDigits cs = (cs.map fun c => c.toNat - 48,[]) := by
  induction cs with
  | nil => rfl
  | cons c cs ih =>
    obtain ⟨first,rest⟩ := List.forall_mem_cons.mp digits
    obtain ⟨d,value⟩ := Option.isSome_iff_exists.mp first
    have same : d = c.toNat - 48 := by
      rw [digit?] at value
      split_ifs at value
      exact (Option.some.inj value).symm
    rw [takeDigits,value,ih rest,same]
    rfl

private def gather (before : ℕ × ℕ) (d : ℕ) : ℕ × ℕ :=
  if before.2 = 0 ∧ before.1 * 10 + d < UInt64.size then (before.1 * 10 + d,0)
  else (before.1,before.2 + 1)

/-- Digits that together fit 64 bits are gathered without loss. -/
theorem gatherWhole_digits {cs : List Char} (fits : Nat.ofDigitChars 10 cs 0 < UInt64.size) :
    Number.gatherWhole (cs.map fun c => c.toNat - 48) = (Nat.ofDigitChars 10 cs 0,0) := by
  -- What is gathered so far is never more than what all the digits make.
  suffices gathered : ∀ value, Nat.ofDigitChars 10 cs value < UInt64.size →
      value ≤ Nat.ofDigitChars 10 cs value ∧
      (cs.map fun c => c.toNat - 48).foldl gather (value,0) = (Nat.ofDigitChars 10 cs value,0) from
    (gathered 0 fits).2
  clear fits
  induction cs with
  | nil =>
    intro value fits
    rw [Nat.ofDigitChars_nil]
    exact ⟨le_refl value,rfl⟩
  | cons c cs ih =>
    intro value fits
    have digit : '0'.toNat = 48 := rfl
    rw [Nat.ofDigitChars_cons,digit,mul_comm] at fits ⊢
    obtain ⟨more,rest⟩ := ih _ fits
    refine ⟨by omega,?_⟩
    rw [List.map_cons,List.foldl_cons,← rest,gather]
    dsimp only
    rw [if_pos ⟨rfl,lt_of_le_of_lt more fits⟩]

private theorem literalOf_digits {cs : List Char} (digits : AllDigits cs) :
    literalOf cs = ⟨false,cs.map fun c => c.toNat - 48,[],none⟩ ∧
    literalOf ('-' :: cs) = ⟨true,cs.map fun c => c.toNat - 48,[],none⟩ := by
  have taken := takeDigits_of_allDigits digits
  constructor
  · unfold literalOf
    split
    case h_1 rest _ same =>
      split at same
      · cases digits '-' List.mem_cons_self
      · cases same
        dsimp only
        rw [taken]
  · rw [literalOf]
    dsimp only
    rw [taken]

/-- An integer is what its spelling stands for. -/
theorem ofLiteral?_int (value : ℤ) (fits : FitsNumber value) :
    Number.ofLiteral? (literalOf (Number.int value fits).write) = some (.int value fits) := by
  obtain ⟨least,greatest⟩ := fits
  obtain ⟨unsigned,signed⟩ := literalOf_digits (allDigits_toDigits value.natAbs)
  have read : Nat.ofDigitChars 10 (Nat.toDigits 10 value.natAbs) 0 = value.natAbs :=
    Nat.ofDigitChars_ten_toDigits
  have small : Nat.ofDigitChars 10 (Nat.toDigits 10 value.natAbs) 0 < UInt64.size := by
    rw [read,UInt64.size]
    omega
  have gathered := gatherWhole_digits small
  rw [read] at gathered
  rw [Number.write]
  split_ifs with below
  · have back : -(value.natAbs : ℤ) = value := by omega
    rw [signed,Number.ofLiteral?]
    dsimp only
    rw [gathered]
    dsimp only
    rw [if_pos rfl,back,if_pos ⟨by omega,least,greatest⟩,Number.ofInt?,dif_pos ⟨least,greatest⟩]
    rfl
  · have back : (value.natAbs : ℤ) = value := by omega
    rw [unsigned,Number.ofLiteral?]
    dsimp only
    rw [gathered]
    dsimp only
    rw [if_neg Bool.false_ne_true,back,Number.ofInt?,dif_pos ⟨least,greatest⟩]
    rfl

end Json

end ToolView
