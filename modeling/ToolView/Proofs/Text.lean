import Mathlib
import ToolView.Text.Blank

/-! Trimming and splitting of texts. Trimming takes characters away that pass a test, on both
sides up to the first one that fails it. The pieces of two sequences with a separator between them
are the pieces of both. Words that were joined by blanks are the words of what was joined. Case
makes no difference to either. -/

namespace ToolView.Text

def Trimmed (p : Char → Bool) (cs : List Char) : Prop :=
  (∀ c ∈ cs.head?, p c = false) ∧ ∀ c ∈ cs.getLast?, p c = false

theorem Trimmed.of_forall {p : Char → Bool} {cs : List Char} (plain : ∀ c ∈ cs, p c = false) :
    Trimmed p cs :=
  ⟨fun c first => plain c (List.mem_of_head? first),
    fun c last => plain c (List.mem_of_getLast? last)⟩

private theorem dropWhile_eq_self {p : Char → Bool} {cs : List Char}
    (first : ∀ c ∈ cs.head?, p c = false) : cs.dropWhile p = cs := by
  cases cs with
  | nil => rfl
  | cons c cs => rw [List.dropWhile_cons,first c rfl,if_neg Bool.false_ne_true]

theorem trimBy_eq_self {p : Char → Bool} {cs : List Char} (trimmed : Trimmed p cs) :
    trimBy p cs = cs := by
  obtain ⟨first,last⟩ := trimmed
  rw [trimBy,dropWhile_eq_self first,dropWhile_eq_self,List.reverse_reverse]
  rwa [List.head?_reverse]

theorem trimBy_around {p : Char → Bool} {before after : List Char} (lead : ∀ c ∈ before, p c)
    (trail : ∀ c ∈ after, p c) (cs : List Char) :
    trimBy p (before ++ cs ++ after) = trimBy p cs := by
  have gone : after.dropWhile p = [] := List.dropWhile_eq_nil_iff.mpr trail
  rw [trimBy,List.append_assoc,List.dropWhile_append_of_pos lead,List.dropWhile_append,gone]
  split_ifs with blank
  · rw [trimBy,List.isEmpty_iff.mp blank]
  · rw [List.reverse_append,List.dropWhile_append_of_pos]
    · rfl
    · exact fun c member => trail c (List.mem_reverse.mp member)

theorem exists_trimBy (p : Char → Bool) (cs : List Char) :
    ∃ before after, cs = before ++ trimBy p cs ++ after ∧ (∀ c ∈ before, p c) ∧ ∀ c ∈ after, p c := by
  refine ⟨cs.takeWhile p,((cs.dropWhile p).reverse.takeWhile p).reverse,?_,?_,?_⟩
  · have back := congrArg List.reverse
      (List.takeWhile_append_dropWhile (p := p) (l := (cs.dropWhile p).reverse))
    rw [List.reverse_append,List.reverse_reverse] at back
    rw [trimBy,List.append_assoc,back,List.takeWhile_append_dropWhile]
  · exact fun c member => List.mem_takeWhile_imp member
  · exact fun c member => List.mem_takeWhile_imp (List.mem_reverse.mp member)

theorem trimmed_trimBy (p : Char → Bool) (cs : List Char) : Trimmed p (trimBy p cs) := by
  have first (ds : List Char) : ∀ c ∈ (ds.dropWhile p).head?, p c = false := by
    intro c head
    have stops := List.head?_dropWhile_not p ds
    rwa [Option.mem_def.mp head] at stops
  rw [trimBy,Trimmed,List.head?_reverse,List.getLast?_reverse]
  refine ⟨?_,first _⟩
  intro c last
  have whole := List.takeWhile_append_dropWhile (p := p) (l := (cs.dropWhile p).reverse)
  have ends : (cs.dropWhile p).head? = some c := by
    rw [← List.getLast?_reverse,← whole,List.getLast?_append,Option.mem_def.mp last]
    rfl
  exact first cs c ends

/-- Trimming keeps every character that fails the test. -/
theorem countP_trimBy (p : Char → Bool) (cs : List Char) :
    (trimBy p cs).countP (fun c => !p c) = cs.countP fun c => !p c := by
  obtain ⟨before,after,parts,lead,trail⟩ := exists_trimBy p cs
  have none {ds : List Char} (all : ∀ c ∈ ds, p c) : ds.countP (fun c => !p c) = 0 :=
    List.countP_eq_zero.mpr fun c member => by simp [all c member]
  conv_rhs => rw [parts]
  rw [List.countP_append,List.countP_append,none lead,none trail,zero_add,add_zero]

/-- What trimming leaves is not changed by what stands around, so all that passes the test. -/
theorem forall_around {p : Char → Bool} {before cs after : List Char}
    (same : trimBy p cs = trimBy p (before ++ cs ++ after)) :
    (∀ c ∈ before, p c) ∧ ∀ c ∈ after, p c := by
  have count := congrArg (List.countP fun c => !p c) same
  rw [countP_trimBy,countP_trimBy,List.countP_append,List.countP_append] at count
  have all {ds : List Char} (none : ds.countP (fun c => !p c) = 0) : ∀ c ∈ ds, p c :=
    fun c member => by simpa using List.countP_eq_zero.mp none c member
  exact ⟨all (by omega),all (by omega)⟩

theorem trimBy_append {p : Char → Bool} {after : List Char} (trail : ∀ c ∈ after, p c)
    (cs : List Char) : trimBy p (cs ++ after) = trimBy p cs :=
  trimBy_around (List.forall_mem_nil _) trail cs

theorem trimBy_lead_append {p : Char → Bool} {before : List Char} (lead : ∀ c ∈ before, p c)
    (cs : List Char) : trimBy p (before ++ cs) = trimBy p cs := by
  have around := trimBy_around lead (List.forall_mem_nil _) cs
  rwa [List.append_nil] at around

theorem trimBy_cons {p : Char → Bool} {c : Char} (passes : p c) (cs : List Char) :
    trimBy p (c :: cs) = trimBy p cs :=
  trimBy_lead_append (List.forall_mem_singleton.mpr passes) cs

theorem trimBy_cons_of_neg {p : Char → Bool} {c : Char} (fails : p c = false) (cs : List Char) :
    ∃ rest, trimBy p (c :: cs) = c :: rest := by
  have stays : (c :: cs).dropWhile p = c :: cs := dropWhile_eq_self fun d same => by
    cases same
    exact fails
  have once : [c].dropWhile p = [c] := dropWhile_eq_self fun d same => by
    cases same
    exact fails
  rw [trimBy,stays,List.reverse_cons,List.dropWhile_append,once]
  split_ifs
  · exact ⟨[],rfl⟩
  · rw [List.reverse_append]
    exact ⟨_,rfl⟩

theorem trimBy_map {p : Char → Bool} {f : Char → Char} (same : ∀ c, p (f c) = p c)
    (cs : List Char) : trimBy p (cs.map f) = (trimBy p cs).map f := by
  have test : p ∘ f = p := funext same
  rw [trimBy,trimBy,List.dropWhile_map,test,← List.map_reverse,List.dropWhile_map,test,
    List.map_reverse]

variable {α : Type}

theorem splitBy_ne_nil (p : α → Bool) (cs : List α) : splitBy p cs ≠ [] := by
  cases cs with
  | nil => exact List.cons_ne_nil _ _
  | cons c cs =>
    rw [splitBy]
    split_ifs
    · exact List.cons_ne_nil _ _
    · split <;> exact List.cons_ne_nil _ _

theorem splitBy_of_not_mem {p : α → Bool} {cs : List α} (plain : ∀ c ∈ cs, p c = false) :
    splitBy p cs = [cs] := by
  induction cs with
  | nil => rfl
  | cons c cs ih =>
    obtain ⟨first,rest⟩ := List.forall_mem_cons.mp plain
    rw [splitBy,first,if_neg Bool.false_ne_true,ih rest]

theorem splitBy_append {p : α → Bool} {separator : α} (separates : p separator) (cs rest : List α) :
    splitBy p (cs ++ separator :: rest) = splitBy p cs ++ splitBy p rest := by
  induction cs with
  | nil =>
    change splitBy p (separator :: rest) = [] :: splitBy p rest
    rw [splitBy,if_pos separates]
  | cons c cs ih =>
    obtain ⟨first,more,pieces⟩ := List.exists_cons_of_ne_nil (splitBy_ne_nil p cs)
    rw [List.cons_append,splitBy,splitBy,ih,pieces]
    split_ifs <;> rfl

theorem splitBy_append_cons {p : α → Bool} {cs : List α} (plain : ∀ c ∈ cs, p c = false)
    {separator : α} (separates : p separator) (rest : List α) :
    splitBy p (cs ++ separator :: rest) = cs :: splitBy p rest := by
  rw [splitBy_append separates,splitBy_of_not_mem plain]
  rfl

theorem splitBy_map {p : α → Bool} {f : α → α} (same : ∀ c, p (f c) = p c)
    (cs : List α) : splitBy p (cs.map f) = (splitBy p cs).map (·.map f) := by
  induction cs with
  | nil => rfl
  | cons c cs ih =>
    obtain ⟨first,more,pieces⟩ := List.exists_cons_of_ne_nil (splitBy_ne_nil p cs)
    rw [List.map_cons,splitBy,splitBy,ih,same,pieces]
    split_ifs <;> rfl

/-- Where two sequences meet, the last piece of the one and the first of the other are one. -/
theorem splitBy_join {p : α → Bool} {cs ds last first : List α}
    {before after : List (List α)} (front : splitBy p cs = before ++ [last])
    (back : splitBy p ds = first :: after) :
    splitBy p (cs ++ ds) = before ++ (last ++ first) :: after := by
  induction cs generalizing before last with
  | nil =>
    obtain ⟨rfl,rfl⟩ : before = [] ∧ last = [] := by
      cases before with
      | nil => cases front; exact ⟨rfl,rfl⟩
      | cons piece before => simp [splitBy] at front
    exact back
  | cons c cs ih =>
    rw [splitBy] at front
    rw [List.cons_append,splitBy]
    split_ifs at front ⊢ with separates
    · cases before with
      | nil => exact absurd (List.cons.inj front).2 (splitBy_ne_nil p cs)
      | cons piece before =>
        obtain ⟨rfl,rest⟩ := List.cons.inj front
        rw [ih rest]
        rfl
    · obtain ⟨next,more,pieces⟩ := List.exists_cons_of_ne_nil (splitBy_ne_nil p cs)
      rw [pieces] at front
      cases before with
      | nil =>
        obtain ⟨rfl,rfl⟩ := List.cons.inj front
        rw [ih (show splitBy p cs = [] ++ [next] from pieces)]
        rfl
      | cons piece before =>
        obtain ⟨rfl,rfl⟩ := List.cons.inj front
        rw [ih (show splitBy p cs = (next :: before) ++ [last] from pieces)]
        rfl

theorem mem_intercalate {a : α} {separator : List α} {pieces : List (List α)}
    (member : a ∈ separator.intercalate pieces) : a ∈ separator ∨ ∃ piece ∈ pieces, a ∈ piece := by
  induction pieces with
  | nil => cases member
  | cons piece pieces ih =>
    cases pieces with
    | nil =>
      rw [List.intercalate_singleton] at member
      exact .inr ⟨piece,List.mem_cons_self,member⟩
    | cons next pieces =>
      rw [List.intercalate_cons_cons,List.mem_append,List.mem_append] at member
      obtain (here | between) | later := member
      · exact .inr ⟨piece,List.mem_cons_self,here⟩
      · exact .inl between
      · exact (ih later).imp id fun ⟨other,inside,there⟩ =>
          ⟨other,List.mem_cons_of_mem _ inside,there⟩

/-- Sequences that were joined by a separator with something behind it come apart at the separator:
what was behind it leads all but the first. -/
theorem splitBy_intercalate {p : α → Bool} {separator : α} (separates : p separator)
    {lead : List α} (plain : ∀ c ∈ lead, p c = false) {first : List α} {rest : List (List α)}
    (pieces : ∀ piece ∈ first :: rest, ∀ c ∈ piece, p c = false) :
    splitBy p ((separator :: lead).intercalate (first :: rest)) = first :: rest.map (lead ++ ·) := by
  induction rest generalizing first with
  | nil =>
    rw [List.intercalate_singleton]
    exact splitBy_of_not_mem (pieces first List.mem_cons_self)
  | cons next rest ih =>
    obtain ⟨head,tail⟩ := List.forall_mem_cons.mp pieces
    obtain ⟨middle,tail⟩ := List.forall_mem_cons.mp tail
    have led : lead ++ (separator :: lead).intercalate (next :: rest) =
        (separator :: lead).intercalate ((lead ++ next) :: rest) := by
      cases rest with
      | nil => rw [List.intercalate_singleton,List.intercalate_singleton]
      | cons => simp only [List.intercalate_cons_cons,List.append_assoc]
    have joined : ∀ c ∈ lead ++ next, p c = false := by
      intro c member
      exact (List.mem_append.mp member).elim (plain c) (middle c)
    rw [List.intercalate_cons_cons,List.append_assoc,List.cons_append,
      splitBy_append_cons head separates,led,ih (List.forall_mem_cons.mpr ⟨joined,tail⟩),
      List.map_cons]

private theorem flatMap_separator (a : α) (first : List α) (rest : List (List α)) :
    first ++ rest.flatMap (a :: ·) ++ [a] = (first :: rest).flatMap (· ++ [a]) := by
  induction rest generalizing first with
  | nil => simp
  | cons next rest ih =>
    rw [List.flatMap_cons,List.flatMap_cons,← ih next]
    simp only [List.append_assoc,List.cons_append,List.nil_append]

section Separator

variable [BEq α] [LawfulBEq α] {a : α}

theorem splitBy_eq_cons {cs first : List α} {rest : List (List α)}
    (pieces : splitBy (· == a) cs = first :: rest) :
    cs = first ++ rest.flatMap (a :: ·) ∧ ∀ piece ∈ first :: rest, a ∉ piece := by
  induction cs generalizing first rest with
  | nil =>
    cases pieces
    exact ⟨rfl,by simp⟩
  | cons c cs ih =>
    obtain ⟨next,more,later⟩ := List.exists_cons_of_ne_nil (splitBy_ne_nil (· == a) cs)
    obtain ⟨same,plain⟩ := ih later
    rw [splitBy,later] at pieces
    split_ifs at pieces with separator
    · cases pieces
      rw [beq_iff_eq.mp separator,List.flatMap_cons,List.cons_append,← same]
      exact ⟨rfl,List.forall_mem_cons.mpr ⟨List.not_mem_nil,plain⟩⟩
    · cases pieces
      obtain ⟨front,plain⟩ := List.forall_mem_cons.mp plain
      have kept : a ∉ c :: next := by
        rw [List.mem_cons,not_or]
        exact ⟨fun same => separator (beq_iff_eq.mpr same.symm),front⟩
      exact ⟨by rw [List.cons_append,← same],List.forall_mem_cons.mpr ⟨kept,plain⟩⟩

theorem not_mem_of_splitBy {cs piece : List α} (member : piece ∈ splitBy (· == a) cs) :
    a ∉ piece := by
  obtain ⟨first,rest,pieces⟩ := List.exists_cons_of_ne_nil (splitBy_ne_nil (· == a) cs)
  exact (splitBy_eq_cons pieces).2 piece (pieces ▸ member)

theorem intercalate_splitBy (cs : List α) : [a].intercalate (splitBy (· == a) cs) = cs := by
  have joined (first : List α) (rest : List (List α)) :
      [a].intercalate (first :: rest) = first ++ rest.flatMap (a :: ·) := by
    induction rest generalizing first with
    | nil => simp
    | cons next rest ih => rw [List.intercalate_cons_cons,ih]; simp
  obtain ⟨first,rest,pieces⟩ := List.exists_cons_of_ne_nil (splitBy_ne_nil (· == a) cs)
  rw [pieces,joined,← (splitBy_eq_cons pieces).1]

/-- Around a piece of a sequence stand the other pieces, each with its separator. -/
theorem splitBy_eq_append {cs piece : List α} {before after : List (List α)}
    (pieces : splitBy (· == a) cs = before ++ piece :: after) :
    cs = before.flatMap (· ++ [a]) ++ piece ++ after.flatMap (a :: ·) ∧ a ∉ piece := by
  cases before with
  | nil =>
    obtain ⟨same,plain⟩ := splitBy_eq_cons pieces
    exact ⟨same,plain piece List.mem_cons_self⟩
  | cons first before =>
    rw [List.cons_append] at pieces
    obtain ⟨same,plain⟩ := splitBy_eq_cons pieces
    refine ⟨?_,plain piece (by simp)⟩
    rw [same,← flatMap_separator,List.flatMap_append,List.flatMap_cons]
    simp only [List.append_assoc,List.cons_append,List.nil_append]

end Separator

theorem cut?_of_notMem {p : Char → Bool} {cs : List Char} (plain : ∀ c ∈ cs, p c = false) :
    cut? p cs = none := by
  have all : ∀ c ∈ cs, (!p c) = true := fun c member => by simp [plain c member]
  rw [cut?,List.span_eq_takeWhile_dropWhile,List.dropWhile_eq_nil_iff.mpr all]

theorem cut?_append_cons {p : Char → Bool} {before : List Char}
    (plain : ∀ c ∈ before, p c = false) {separator : Char} (separates : p separator)
    (after : List Char) : cut? p (before ++ separator :: after) = some (before,after) := by
  have all : ∀ c ∈ before, (!p c) = true := fun c member => by simp [plain c member]
  have stops : (!p separator) = false := by simp [separates]
  rw [cut?,List.span_eq_takeWhile_dropWhile,List.takeWhile_append_of_pos all,
    List.dropWhile_append_of_pos all,List.dropWhile_cons_of_neg (by simp [stops])]
  simp [stops]

theorem trim_dropReturn (line : List Char) : trim (dropReturn line) = trim line := by
  have blank : isBlank '\r' = true := rfl
  rw [dropReturn]
  split_ifs with ended
  · obtain ⟨before,rfl⟩ := List.getLast?_eq_some_iff.mp ended
    rw [List.dropLast_concat]
    exact (trimBy_append (List.forall_mem_singleton.mpr blank) before).symm
  · rfl

theorem lines_eq {cs : List Char} {ended : List (List Char)} {last : List Char}
    (pieces : splitBy (· == '\n') cs = ended ++ [last]) :
    lines cs = ended.map dropReturn ++ if last.isEmpty then [] else [last] := by
  have back : (ended.reverse.map dropReturn).reverse = ended.map dropReturn := by
    rw [List.map_reverse,List.reverse_reverse]
  rw [lines,pieces,List.reverse_append,List.reverse_singleton,List.singleton_append]
  dsimp only
  rw [back]
  split_ifs
  · rw [List.append_nil]
  · rfl

def isAsciiBlank (c : Char) : Bool := c ∈ ['\t','\n','\x0c','\r',' ']

/-- The words of a text: what stands between its white space. -/
def words (cs : List Char) : List (List Char) :=
  (splitBy isAsciiBlank cs).filter fun piece => !piece.isEmpty

def IsWord (cs : List Char) : Prop := cs ≠ [] ∧ ∀ c ∈ cs, isAsciiBlank c = false

instance (cs : List Char) : Decidable (IsWord cs) :=
  decidable_of_iff (cs ≠ [] ∧ cs.all fun c => !isAsciiBlank c) (by simp [IsWord])

theorem words_append {c : Char} (blank : isAsciiBlank c) (cs rest : List Char) :
    words (cs ++ c :: rest) = words cs ++ words rest := by
  rw [words,splitBy_append blank,List.filter_append]
  rfl

theorem words_of_isWord {cs : List Char} (word : IsWord cs) : words cs = [cs] := by
  rw [words,splitBy_of_not_mem word.2,List.filter_singleton,List.isEmpty_eq_false_iff.mpr word.1]
  rfl

private theorem words_blanks {cs : List Char} (blank : ∀ c ∈ cs, isAsciiBlank c) :
    words cs = [] := by
  induction cs with
  | nil => rfl
  | cons c cs ih =>
    obtain ⟨first,rest⟩ := List.forall_mem_cons.mp blank
    exact (words_append first [] cs).trans (ih rest)

theorem words_append_blanks {after : List Char} (blank : ∀ c ∈ after, isAsciiBlank c)
    (cs : List Char) : words (cs ++ after) = words cs := by
  cases after with
  | nil => rw [List.append_nil]
  | cons c after =>
    obtain ⟨first,rest⟩ := List.forall_mem_cons.mp blank
    rw [words_append first,words_blanks rest,List.append_nil]

theorem words_blanks_append {before : List Char} (blank : ∀ c ∈ before, isAsciiBlank c)
    (cs : List Char) : words (before ++ cs) = words cs := by
  induction before with
  | nil => rfl
  | cons c before ih =>
    obtain ⟨first,rest⟩ := List.forall_mem_cons.mp blank
    exact (words_append first [] (before ++ cs)).trans (ih rest)

theorem words_trimBy (cs : List Char) : words (trimBy isAsciiBlank cs) = words cs := by
  obtain ⟨before,after,parts,lead,trail⟩ := exists_trimBy isAsciiBlank cs
  conv_rhs => rw [parts]
  rw [words_append_blanks trail,words_blanks_append lead]

/-- Words that were joined by blanks are read as the same words. -/
theorem words_intercalate {ws : List (List Char)} (all : ∀ w ∈ ws, IsWord w) :
    words ([' '].intercalate ws) = ws := by
  induction ws with
  | nil => rfl
  | cons w ws ih =>
    obtain ⟨first,rest⟩ := List.forall_mem_cons.mp all
    cases ws with
    | nil => rw [List.intercalate_singleton,words_of_isWord first]
    | cons w' ws =>
      rw [List.intercalate_cons_cons,List.append_assoc,List.singleton_append,words_append (by decide),
        words_of_isWord first,ih rest,List.singleton_append]

private theorem isAlpha_of_isBlank {c : Char} (blank : isBlank c) : c.isAlpha = false := by
  simp only [isBlank,Bool.or_eq_true,Bool.and_eq_true,decide_eq_true_eq,beq_iff_eq] at blank
  simp [Char.isAlpha,Char.isUpper,Char.isLower,UInt32.le_iff_toNat_le]
  omega

/-- A test that no letter passes does not tell letters of one case from those of the other. -/
theorem test_toLower {p : Char → Bool} (plain : ∀ c, p c → c.isAlpha = false) (c : Char) :
    p c.toLower = p c := by
  have fails {d : Char} (alpha : d.isAlpha) : p d = false := by
    by_contra passes
    cases alpha.symm.trans (plain d ((Bool.not_eq_false _).mp passes))
  by_cases upper : c.isUpper
  · have alpha : c.isAlpha := by rw [Char.isAlpha,upper,Bool.true_or]
    rw [fails alpha,fails ((Char.isAlpha_toLower_eq_isAlpha c).trans alpha)]
  · rw [Char.toLower_eq_of_not_isUpper upper]

theorem beq_toLower {d : Char} (plain : d.isAlpha = false) (c : Char) :
    (c.toLower == d) = (c == d) := by
  have test : ∀ e : Char, (e == d) = true → e.isAlpha = false := by
    intro e same
    rw [beq_iff_eq.mp same,plain]
  exact test_toLower test c

theorem trim_lower (cs : List Char) : trim (lower cs) = lower (trim cs) :=
  trimBy_map (test_toLower fun _ => isAlpha_of_isBlank) cs

theorem mem_lower {d : Char} (plain : d.isAlpha = false) {cs : List Char} :
    d ∈ lower cs ↔ d ∈ cs := by
  rw [lower,List.mem_map]
  constructor
  · rintro ⟨c,member,same⟩
    rw [← beq_iff_eq,beq_toLower plain,beq_iff_eq] at same
    exact same ▸ member
  · intro member
    exact ⟨d,member,by rw [← beq_iff_eq,beq_toLower plain,beq_self_eq_true]⟩

@[simp] theorem lower_lower (cs : List Char) : lower (lower cs) = lower cs := by
  simp [lower]

end ToolView.Text
