import Mathlib
import ToolView.Utf8
import ToolView.Base64

/-! A text comes back from its bytes, and bytes come back from their symbols in base64. Decoding
takes one character, or one group of four symbols, off the front at a time, so each law is one
lemma about a front with anything behind it. -/

namespace ToolView

private theorem toNat_ofNat {n : ℕ} (small : n < 256) : (UInt8.ofNat n).toNat = n :=
  UInt8.toNat_ofNat_of_lt' small

namespace Utf8

private theorem isTail_ofNat {n : ℕ} (low : 128 ≤ n) (high : n ≤ 191) :
    isTail (UInt8.ofNat n) = true := by
  have value : (UInt8.ofNat n).toNat = n := toNat_ofNat (by omega)
  simp [isTail,UInt8.le_iff_toNat_le,value,low,high]

private theorem tailBits_ofNat {n : ℕ} (small : n < 256) : tailBits (UInt8.ofNat n) = n % 64 := by
  rw [tailBits,toNat_ofNat small]

/-- Behind the first byte of a long sequence stands one that rules out overlong sequences, halves
of pairs and what lies beyond the last character. -/
private theorem continues_ofNat {m n : ℕ} (small : m < 256) (low : 128 ≤ n) (high : n ≤ 191)
    (overlong : m = 0xE0 → 0xA0 ≤ n) (half : m = 0xED → n ≤ 0x9F) (overlongFour : m = 0xF0 → 0x90 ≤ n)
    (beyond : m = 0xF4 → n ≤ 0x8F) : continues (UInt8.ofNat m) (UInt8.ofNat n) = true := by
  have second : (UInt8.ofNat n).toNat = n := toNat_ofNat (by omega)
  have first (k : ℕ) (byte : k < 256) : UInt8.ofNat m = UInt8.ofNat k ↔ m = k := by
    rw [← UInt8.toNat_inj,toNat_ofNat small,toNat_ofNat byte]
  unfold continues secondRange
  rw [show (0xE0 : UInt8) = UInt8.ofNat 0xE0 from rfl,show (0xED : UInt8) = UInt8.ofNat 0xED from rfl,
    show (0xF0 : UInt8) = UInt8.ofNat 0xF0 from rfl,show (0xF4 : UInt8) = UInt8.ofNat 0xF4 from rfl]
  simp only [first,show 0xE0 < 256 by decide,show 0xED < 256 by decide,show 0xF0 < 256 by decide,
    show 0xF4 < 256 by decide]
  split_ifs with e0 ed f0 f4 <;>
    simp [UInt8.le_iff_toNat_le,second] <;> omega

private theorem return_eq_map {index : ℕ} {rest : List UInt8} (c : Char) :
    (do return c :: (← decodeFrom index rest)) = (decodeFrom index rest).map (c :: ·) := by
  cases decodeFrom index rest <;> rfl

private theorem decodeFrom_one (index : ℕ) {n : ℕ} (ascii : n < 128) (rest : List UInt8) :
    decodeFrom index (UInt8.ofNat n :: rest) =
      (decodeFrom (index + 1) rest).map (Char.ofNat n :: ·) := by
  have value : (UInt8.ofNat n).toNat = n := toNat_ofNat (by omega)
  have below : UInt8.ofNat n < 0x80 := by simp [UInt8.lt_iff_toNat_lt,value,ascii]
  rw [decodeFrom.eq_def]
  dsimp only
  rw [if_pos below,value,return_eq_map]

private theorem decodeFrom_two (index : ℕ) {a b : ℕ} (lead : 0xC2 ≤ a ∧ a ≤ 0xDF)
    (tail : 128 ≤ b ∧ b ≤ 191) (rest : List UInt8) :
    decodeFrom index (UInt8.ofNat a :: UInt8.ofNat b :: rest) =
      (decodeFrom (index + 2) rest).map (Char.ofNat (a % 32 * 64 + b % 64) :: ·) := by
  have value : (UInt8.ofNat a).toNat = a := toNat_ofNat (by omega)
  have above : ¬ UInt8.ofNat a < 0x80 := by simp [UInt8.lt_iff_toNat_lt,value]; omega
  have two : 0xC2 ≤ UInt8.ofNat a ∧ UInt8.ofNat a ≤ 0xDF := by
    simp [UInt8.le_iff_toNat_le,value]; omega
  rw [decodeFrom.eq_def]
  dsimp only
  rw [if_neg above,if_pos two]
  rw [isTail_ofNat tail.1 tail.2,tailBits_ofNat (by omega),value]
  exact return_eq_map _

private theorem decodeFrom_three (index : ℕ) {a b c : ℕ} (lead : 0xE0 ≤ a ∧ a ≤ 0xEF)
    (second : 128 ≤ b ∧ b ≤ 191) (tail : 128 ≤ c ∧ c ≤ 191) (overlong : a = 0xE0 → 0xA0 ≤ b)
    (half : a = 0xED → b ≤ 0x9F) (rest : List UInt8) :
    decodeFrom index (UInt8.ofNat a :: UInt8.ofNat b :: UInt8.ofNat c :: rest) =
      (decodeFrom (index + 3) rest).map
        (Char.ofNat (a % 16 * 4096 + b % 64 * 64 + c % 64) :: ·) := by
  have value : (UInt8.ofNat a).toNat = a := toNat_ofNat (by omega)
  have above : ¬ UInt8.ofNat a < 0x80 := by simp [UInt8.lt_iff_toNat_lt,value]; omega
  have notTwo : ¬ (0xC2 ≤ UInt8.ofNat a ∧ UInt8.ofNat a ≤ 0xDF) := by
    simp [UInt8.le_iff_toNat_le,value]; omega
  have three : 0xE0 ≤ UInt8.ofNat a ∧ UInt8.ofNat a ≤ 0xEF := by
    simp [UInt8.le_iff_toNat_le,value]; omega
  rw [decodeFrom.eq_def]
  dsimp only
  rw [if_neg above,if_neg notTwo,if_pos three]
  rw [continues_ofNat (by omega) second.1 second.2 overlong half (by omega) (by omega),
    isTail_ofNat tail.1 tail.2,tailBits_ofNat (by omega),tailBits_ofNat (by omega),value]
  exact return_eq_map _

private theorem decodeFrom_four (index : ℕ) {a b c d : ℕ} (lead : 0xF0 ≤ a ∧ a ≤ 0xF4)
    (second : 128 ≤ b ∧ b ≤ 191) (third : 128 ≤ c ∧ c ≤ 191) (tail : 128 ≤ d ∧ d ≤ 191)
    (overlong : a = 0xF0 → 0x90 ≤ b) (beyond : a = 0xF4 → b ≤ 0x8F) (rest : List UInt8) :
    decodeFrom index (UInt8.ofNat a :: UInt8.ofNat b :: UInt8.ofNat c :: UInt8.ofNat d :: rest) =
      (decodeFrom (index + 4) rest).map
        (Char.ofNat (a % 8 * 262144 + b % 64 * 4096 + c % 64 * 64 + d % 64) :: ·) := by
  have value : (UInt8.ofNat a).toNat = a := toNat_ofNat (by omega)
  have above : ¬ UInt8.ofNat a < 0x80 := by simp [UInt8.lt_iff_toNat_lt,value]; omega
  have notTwo : ¬ (0xC2 ≤ UInt8.ofNat a ∧ UInt8.ofNat a ≤ 0xDF) := by
    simp [UInt8.le_iff_toNat_le,value]; omega
  have notThree : ¬ (0xE0 ≤ UInt8.ofNat a ∧ UInt8.ofNat a ≤ 0xEF) := by
    simp [UInt8.le_iff_toNat_le,value]; omega
  have four : 0xF0 ≤ UInt8.ofNat a ∧ UInt8.ofNat a ≤ 0xF4 := by
    simp [UInt8.le_iff_toNat_le,value]; omega
  rw [decodeFrom.eq_def]
  dsimp only
  rw [if_neg above,if_neg notTwo,if_neg notThree,if_pos four]
  rw [continues_ofNat (by omega) second.1 second.2 (by omega) (by omega) overlong beyond,
    isTail_ofNat third.1 third.2,isTail_ofNat tail.1 tail.2,tailBits_ofNat (by omega),
    tailBits_ofNat (by omega),tailBits_ofNat (by omega),value]
  exact return_eq_map _

/-- The bytes of a character decode to it, whatever follows. -/
private theorem decodeFrom_char (index : ℕ) (c : Char) (rest : List UInt8) :
    ∃ next, decodeFrom index (String.utf8EncodeChar c ++ rest) =
      (decodeFrom next rest).map (c :: ·) := by
  have valid : c.toNat < 0xD800 ∨ 0xDFFF < c.toNat ∧ c.toNat < 0x110000 := c.valid
  have back {n : ℕ} (same : n = c.toNat) : Char.ofNat n = c := by rw [same,Char.ofNat_toNat]
  unfold String.utf8EncodeChar
  rw [show c.val.toNat = c.toNat from rfl]
  dsimp only
  split_ifs with one two three
  · exact ⟨_,by rw [List.singleton_append,decodeFrom_one index (by omega),back rfl]⟩
  · refine ⟨index + 2,?_⟩
    rw [List.cons_append,List.cons_append,List.nil_append,
      decodeFrom_two index (by omega) (by omega),back (by omega)]
  · refine ⟨index + 3,?_⟩
    rw [List.cons_append,List.cons_append,List.cons_append,List.nil_append,
      decodeFrom_three index (by omega) (by omega) (by omega) (by omega) (by omega),
      back (by omega)]
  · refine ⟨index + 4,?_⟩
    rw [List.cons_append,List.cons_append,List.cons_append,List.cons_append,List.nil_append,
      decodeFrom_four index (by omega) (by omega) (by omega) (by omega) (by omega) (by omega),
      back (by omega)]

/-- A text comes back from its bytes. -/
theorem decode_encode (cs : List Char) : decode (encode cs) = .ok cs := by
  suffices back : ∀ index, decodeFrom index (encode cs) = .ok cs from back 0
  induction cs with
  | nil => exact fun index => rfl
  | cons c cs ih =>
    intro index
    obtain ⟨next,front⟩ := decodeFrom_char index c (encode cs)
    rw [encode,List.flatMap_cons,← encode,front,ih next]
    rfl

/-- A byte below 128 is a character on its own. -/
theorem ofNat_mem_of_encode {cs : List Char} {b : UInt8} (member : b ∈ encode cs)
    (ascii : b.toNat < 128) : Char.ofNat b.toNat ∈ cs := by
  obtain ⟨c,inside,member⟩ := List.mem_flatMap.mp member
  have valid : c.toNat < 0xD800 ∨ 0xDFFF < c.toNat ∧ c.toNat < 0x110000 := c.valid
  have high {n : ℕ} (above : 128 ≤ n) (small : n < 256) : b ≠ UInt8.ofNat n := by
    rintro rfl
    rw [toNat_ofNat small] at ascii
    omega
  unfold String.utf8EncodeChar at member
  rw [show c.val.toNat = c.toNat from rfl] at member
  dsimp only at member
  split_ifs at member with one two three
  · have same := List.mem_singleton.mp member
    rw [same,toNat_ofNat (by omega),Char.ofNat_toNat]
    exact inside
  all_goals simp only [List.mem_cons,List.not_mem_nil,or_false] at member
  · rcases member with same | same <;> exact absurd same (high (by omega) (by omega))
  · rcases member with same | same | same <;> exact absurd same (high (by omega) (by omega))
  · rcases member with same | same | same | same <;>
      exact absurd same (high (by omega) (by omega))

/-- Text in ASCII is its own bytes. -/
theorem encode_ascii {bytes : List UInt8} (ascii : ∀ b ∈ bytes, b < 128) :
    encode (bytes.map fun b => Char.ofNat b.toNat) = bytes := by
  induction bytes with
  | nil => rfl
  | cons b bytes ih =>
    obtain ⟨first,rest⟩ := List.forall_mem_cons.mp ascii
    rw [encode,List.map_cons,List.flatMap_cons,← encode,ih rest]
    have small : b.toNat < 128 := UInt8.lt_iff_toNat_lt.mp first
    have value : (Char.ofNat b.toNat).val.toNat = b.toNat := by
      rw [Char.ofNat,dif_pos (.inl (by omega))]
      rfl
    have one : String.utf8EncodeChar (Char.ofNat b.toNat) = [b] := by
      unfold String.utf8EncodeChar
      rw [value]
      dsimp only
      rw [if_pos (by omega),UInt8.ofNat_toNat]
    rw [one]
    rfl

end Utf8

namespace Base64

private theorem symbol_spec : ∀ n < 64, value? (symbol n) = some n ∧ symbol n ≠ pad ∧
    33 ≤ (symbol n).toNat ∧ (symbol n).toNat < 127 := by decide

private theorem values_symbol {n : ℕ} (small : n < 64) (offset : ℕ) (rest : List UInt8) :
    values offset (symbol n :: rest) = (values (offset + 1) rest).map (n :: ·) := by
  rw [values,(symbol_spec n small).1]
  cases values (offset + 1) rest <;> rfl

private theorem lastValues_symbol {n : ℕ} (small : n < 64) (offset place : ℕ)
    (rest : List UInt8) :
    lastValues offset place (symbol n :: rest) =
      (lastValues offset (place + 1) rest).map fun read => (n :: read.1,read.2) := by
  have symbols := symbol_spec n small
  rw [lastValues,if_neg symbols.2.1,symbols.1]
  cases lastValues offset (place + 1) rest <;> rfl

private theorem decodeLast_four {a b c d : ℕ} (first : a < 64) (second : b < 64) (third : c < 64)
    (fourth : d < 64) (offset : ℕ) :
    decodeLast offset [symbol a,symbol b,symbol c,symbol d] = .ok (join [a,b,c,d]) := by
  rw [decodeLast,lastValues_symbol first,lastValues_symbol second,lastValues_symbol third,
    lastValues_symbol fourth]
  rfl

private theorem decodeLast_three {a b c : ℕ} (first : a < 64) (second : b < 64) (third : c < 64)
    (clear : c % 4 = 0) (offset : ℕ) :
    decodeLast offset [symbol a,symbol b,symbol c,pad] = .ok (join [a,b,c]) := by
  rw [decodeLast,lastValues_symbol first,lastValues_symbol second,lastValues_symbol third]
  simp [lastValues,Except.map,bind,Except.bind,spareBitsClear,clear,pure,Except.pure]

private theorem decodeLast_two {a b : ℕ} (first : a < 64) (second : b < 64)
    (clear : b % 16 = 0) (offset : ℕ) :
    decodeLast offset [symbol a,symbol b,pad,pad] = .ok (join [a,b]) := by
  rw [decodeLast,lastValues_symbol first,lastValues_symbol second]
  simp [lastValues,Except.map,bind,Except.bind,spareBitsClear,clear,pure,Except.pure]

private theorem ofNat_of_eq {n : ℕ} {b : UInt8} (same : n = b.toNat) : UInt8.ofNat n = b := by
  rw [same,UInt8.ofNat_toNat]

private theorem join_group (a b c : UInt8) (rest : List ℕ) :
    join ((a.toNat / 4) :: (a.toNat % 4 * 16 + b.toNat / 16) ::
      (b.toNat % 16 * 4 + c.toNat / 64) :: (c.toNat % 64) :: rest) = a :: b :: c :: join rest := by
  have bs := b.toNat_lt
  have cs := c.toNat_lt
  rw [join,ofNat_of_eq (b := a) (by omega),ofNat_of_eq (b := b) (by omega),
    ofNat_of_eq (b := c) (by omega)]

/-- The symbols of bytes fall into whole groups and a last one, and each part is read back. -/
private theorem encode_parts {bytes : List UInt8} (nonempty : bytes ≠ []) :
    ∃ front last vs rest, encode bytes = front ++ last ∧ last.length = 4 ∧ front.length % 4 = 0 ∧
      (∀ offset, values offset front = .ok vs) ∧ (∀ offset, decodeLast offset last = .ok rest) ∧
      join vs ++ rest = bytes := by
  induction bytes using encode.induct with
  | case1 a b c rest ih =>
    have as := a.toNat_lt
    have bs := b.toNat_lt
    have cs := c.toNat_lt
    by_cases more : rest = []
    · refine ⟨[],_,[],_,?_,rfl,rfl,fun offset => rfl,decodeLast_four (a := a.toNat / 4)
        (b := a.toNat % 4 * 16 + b.toNat / 16) (c := b.toNat % 16 * 4 + c.toNat / 64)
        (d := c.toNat % 64) (by omega) (by omega) (by omega) (by omega),?_⟩
      · rw [more,encode,encode,List.nil_append]
      · rw [join_group,more]
        rfl
    · obtain ⟨front,last,vs,bytes,parts,length,whole,read,readLast,same⟩ := ih more
      refine ⟨symbol (a.toNat / 4) :: symbol (a.toNat % 4 * 16 + b.toNat / 16) ::
        symbol (b.toNat % 16 * 4 + c.toNat / 64) :: symbol (c.toNat % 64) :: front,last,
        (a.toNat / 4) :: (a.toNat % 4 * 16 + b.toNat / 16) :: (b.toNat % 16 * 4 + c.toNat / 64) ::
          (c.toNat % 64) :: vs,bytes,?_,length,?_,?_,readLast,?_⟩
      · rw [encode,parts]
        rfl
      · simp only [List.length_cons]
        omega
      · intro offset
        rw [values_symbol (by omega),values_symbol (by omega),values_symbol (by omega),
          values_symbol (by omega),read]
        rfl
      · rw [join_group,← same]
        rfl
  | case2 a b =>
    have as := a.toNat_lt
    have bs := b.toNat_lt
    refine ⟨[],_,[],_,?_,rfl,rfl,fun offset => rfl,decodeLast_three (a := a.toNat / 4)
      (b := a.toNat % 4 * 16 + b.toNat / 16) (c := b.toNat % 16 * 4) (by omega) (by omega)
      (by omega) (by omega),?_⟩
    · rw [encode,List.nil_append]
    · rw [join,ofNat_of_eq (b := a) (by omega),ofNat_of_eq (b := b) (by omega)]
      rfl
  | case3 a =>
    have as := a.toNat_lt
    refine ⟨[],_,[],_,?_,rfl,rfl,fun offset => rfl,decodeLast_two (a := a.toNat / 4)
      (b := a.toNat % 4 * 16) (by omega) (by omega) (by omega),?_⟩
    · rw [encode,List.nil_append]
    · rw [join,ofNat_of_eq (b := a) (by omega)]
      rfl
  | case4 => exact absurd rfl nonempty

/-- Bytes come back from their symbols. -/
theorem decode_encode (bytes : List UInt8) : decode (encode bytes) = .ok bytes := by
  by_cases empty : bytes = []
  · subst empty
    rfl
  obtain ⟨front,last,vs,rest,parts,length,whole,read,readLast,same⟩ := encode_parts empty
  have groups : (front ++ last).length % 4 = 0 := by
    rw [List.length_append,length]
    omega
  have place : (front ++ last).length - min 4 (front ++ last).length = front.length := by
    rw [List.length_append,length]
    omega
  rw [decode,parts,groups,if_pos rfl,place]
  simp only [decode.go,List.take_left,List.drop_left,read,readLast]
  exact congrArg Except.ok same

/-- Every symbol can be seen: none is blank, and none is outside ASCII. -/
theorem encode_visible (bytes : List UInt8) :
    ∀ b ∈ encode bytes, 33 ≤ b.toNat ∧ b.toNat < 127 := by
  have visible {n : ℕ} (small : n < 64) := (symbol_spec n small).2.2
  induction bytes using encode.induct with
  | case1 a b c rest ih =>
    have as := a.toNat_lt
    have bs := b.toNat_lt
    have cs := c.toNat_lt
    simp only [encode,List.forall_mem_cons]
    exact ⟨visible (by omega),visible (by omega),visible (by omega),visible (by omega),ih⟩
  | case2 a b =>
    have as := a.toNat_lt
    have bs := b.toNat_lt
    simp only [encode,List.forall_mem_cons]
    exact ⟨visible (by omega),visible (by omega),visible (by omega),by decide,by simp⟩
  | case3 a =>
    have as := a.toNat_lt
    simp only [encode,List.forall_mem_cons]
    exact ⟨visible (by omega),visible (by omega),by decide,by decide,by simp⟩
  | case4 => simp [encode]

end Base64

end ToolView
