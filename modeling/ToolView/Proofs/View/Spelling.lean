import Mathlib
import ToolView.Proofs.View.Creation

/-! How the name of a kind of view can be spelled. A MIME type is read without regard to case, to
the blanks between its parts and the quotes around a value; of its parameters two count, and of
those the first of each name. So a type keeps its kind however often it is spelled anew. -/

namespace ToolView.ViewKind

/-- The names of the parameters that count. -/
def counted : List String := ["profile","framework"]

def Names (segment : List Char) (name : String) : Prop :=
  ∃ key value, segment = key ++ '=' :: value ∧ '=' ∉ key ∧ Text.lower (Text.trim key) = name.toList

/-- What follows begins a segment of its own, or there is nothing. -/
def Ends (rest : List Char) : Prop := ∀ c ∈ rest.head?, c = ';'

instance (rest : List Char) : Decidable (Ends rest) :=
  decidable_of_iff (rest.head?.all (· == ';')) (by cases rest <;> simp [Ends])

/-- Places where blanks say nothing: the ends of the text, both sides of a break between segments,
and both sides of the first equals sign of a parameter. -/
inductive Gap : List Char → List Char → Prop
  | start (after : List Char) : Gap [] after
  | ended (before : List Char) : Gap before []
  | beforeBreak (before after : List Char) : Gap before (';' :: after)
  | afterBreak (before after : List Char) : Gap (before ++ [';']) after
  | beforeEquals (before : List Char) {key : List Char} (whole : ';' ∉ key) (first : '=' ∉ key)
      (after : List Char) : Gap (before ++ ';' :: key) ('=' :: after)
  | afterEquals (before : List Char) {key : List Char} (whole : ';' ∉ key) (first : '=' ∉ key)
      (after : List Char) : Gap (before ++ ';' :: (key ++ ['='])) after

def Recased (c d : Char) : Prop := d = c ∨ d = c.toLower ∨ d = c.toUpper

/-- One change of a type that leaves it the same type. -/
inductive Respelling : List Char → List Char → Prop
  | recased {cs ds : List Char} (letters : List.Forall₂ Recased cs ds) : Respelling cs ds
  | spaced {before after blanks : List Char} (gap : Gap before after)
      (blank : ∀ c ∈ blanks, Text.isBlank c) :
      Respelling (before ++ after) (before ++ blanks ++ after)
  | quoted (before key lead value trail rest : List Char) (first : '=' ∉ key)
      (whole : ';' ∉ key ++ '=' :: (lead ++ value ++ trail))
      (blankLead : ∀ c ∈ lead, Text.isBlank c) (blankTrail : ∀ c ∈ trail, Text.isBlank c)
      (trimmed : Text.Trimmed Text.isBlank value) (ends : Ends rest) :
      Respelling (before ++ ';' :: (key ++ '=' :: (lead ++ value ++ trail)) ++ rest)
        (before ++ ';' :: (key ++ '=' :: (lead ++ '"' :: value ++ '"' :: trail)) ++ rest)
  | unrelated (before segment rest : List Char) (whole : ';' ∉ segment)
      (unnamed : ∀ name ∈ counted, ¬ Names segment name) (ends : Ends rest) :
      Respelling (before ++ rest) (before ++ ';' :: segment ++ rest)
  | repeated (before first between again rest : List Char) {name : String}
      (whole : ';' ∉ first ∧ ';' ∉ again) (counts : name ∈ counted) (earlier : Names first name)
      (later : Names again name) (separate : Ends between) (ends : Ends rest) :
      Respelling (before ++ ';' :: first ++ between ++ rest)
        (before ++ ';' :: first ++ between ++ ';' :: again ++ rest)

def Respelled (s t : String) : Prop := Relation.ReflTransGen Respelling s.toList t.toList

private theorem plain_of_notMem {a : Char} {cs : List Char} (absent : a ∉ cs) :
    ∀ c ∈ cs, (c == a) = false := by
  intro c member
  rw [beq_eq_false_iff_ne]
  rintro rfl
  exact absent member

private theorem notMem_of_blank {a : Char} {cs : List Char} (visible : Text.isBlank a = false)
    (blank : ∀ c ∈ cs, Text.isBlank c) : a ∉ cs := by
  intro member
  cases visible.symm.trans (blank a member)

theorem parameter?_of_notMem {segment : List Char} (plain : '=' ∉ segment) :
    parameter? segment = none := by
  rw [parameter?,Text.cut?_of_notMem (plain_of_notMem plain)]
  rfl

theorem parameter?_eq {key : List Char} (first : '=' ∉ key) (value : List Char) :
    parameter? (key ++ '=' :: value) = some (String.ofList (Text.lower (Text.trim key)),
      String.ofList (Text.lower (Text.trimBy (· == '"') (Text.trim value)))) := by
  rw [parameter?,Text.cut?_append_cons (plain_of_notMem first) (beq_self_eq_true '=')]
  rfl

/-- A segment is no parameter, or has a key up to its first equals sign. -/
theorem parameter_cases (segment : List Char) :
    '=' ∉ segment ∨ ∃ key value, segment = key ++ '=' :: value ∧ '=' ∉ key := by
  by_cases sign : '=' ∈ segment
  · exact .inr (List.eq_append_cons_of_mem sign)
  · exact .inl sign

theorem names_iff {segment : List Char} {name : String} :
    Names segment name ↔ ∃ value, parameter? segment = some (name,value) := by
  constructor
  · rintro ⟨key,value,rfl,first,same⟩
    rw [parameter?_eq first,same,String.ofList_toList]
    exact ⟨_,rfl⟩
  · rintro ⟨value,read⟩
    obtain plain | ⟨key,rest,rfl,first⟩ := parameter_cases segment
    · rw [parameter?_of_notMem plain] at read
      cases read
    · rw [parameter?_eq first] at read
      cases read
      exact ⟨key,rest,rfl,first,by rw [String.toList_ofList]⟩

instance (segment : List Char) (name : String) : Decidable (Names segment name) :=
  decidable_of_iff ((parameter? segment).any (·.1 == name)) (by
    rw [names_iff]
    cases parameter? segment <;> simp [Prod.ext_iff])

theorem parameter?_around {lead trail : List Char} (blankLead : ∀ c ∈ lead, Text.isBlank c)
    (blankTrail : ∀ c ∈ trail, Text.isBlank c) (segment : List Char) :
    parameter? (lead ++ segment ++ trail) = parameter? segment := by
  have noLead : '=' ∉ lead := notMem_of_blank rfl blankLead
  have noTrail : '=' ∉ trail := notMem_of_blank rfl blankTrail
  obtain plain | ⟨key,value,rfl,first⟩ := parameter_cases segment
  · rw [parameter?_of_notMem plain,parameter?_of_notMem]
    simp [plain,noLead,noTrail]
  · have moved : lead ++ (key ++ '=' :: value) ++ trail =
        (lead ++ key) ++ '=' :: (value ++ trail) := by
      simp
    have first' : '=' ∉ lead ++ key := by simp [first,noLead]
    rw [moved,parameter?_eq first',parameter?_eq first]
    simp only [Text.trim,Text.trimBy_lead_append blankLead,Text.trimBy_append blankTrail]

theorem parameter?_lower (segment : List Char) :
    parameter? (Text.lower segment) = parameter? segment := by
  obtain plain | ⟨key,value,rfl,first⟩ := parameter_cases segment
  · rw [parameter?_of_notMem plain,parameter?_of_notMem]
    rwa [Text.mem_lower rfl]
  · have first' : '=' ∉ Text.lower key := by rwa [Text.mem_lower rfl]
    have parts : Text.lower (key ++ '=' :: value) = Text.lower key ++ '=' :: Text.lower value := by
      rw [Text.lower,List.map_append,List.map_cons]
      rfl
    have bare : Text.trimBy (· == '"') (Text.lower (Text.trim value)) =
        Text.lower (Text.trimBy (· == '"') (Text.trim value)) :=
      Text.trimBy_map (Text.beq_toLower rfl) _
    rw [parts,parameter?_eq first',parameter?_eq first,Text.trim_lower,Text.trim_lower,bare,
      Text.lower_lower,Text.lower_lower]

theorem parameter?_quoted {key lead value trail : List Char} (first : '=' ∉ key)
    (blankLead : ∀ c ∈ lead, Text.isBlank c) (blankTrail : ∀ c ∈ trail, Text.isBlank c)
    (trimmed : Text.Trimmed Text.isBlank value) :
    parameter? (key ++ '=' :: (lead ++ '"' :: value ++ '"' :: trail)) =
      parameter? (key ++ '=' :: (lead ++ value ++ trail)) := by
  -- The blanks around the value end at the quotes, so the quotes are what is taken away next.
  have quote_trimmed : Text.Trimmed Text.isBlank ('"' :: value ++ ['"']) := by
    refine ⟨?_,?_⟩
    · rintro c same
      cases same
      rfl
    · rw [List.getLast?_concat]
      rintro c same
      cases same
      rfl
  have moved : lead ++ '"' :: value ++ '"' :: trail = lead ++ ('"' :: value ++ ['"']) ++ trail := by
    simp
  have quote : ∀ c ∈ ['"'], (c == '"') = true := List.forall_mem_singleton.mpr rfl
  have bare : Text.trimBy (· == '"') ('"' :: value ++ ['"']) = Text.trimBy (· == '"') value :=
    Text.trimBy_around quote quote value
  rw [parameter?_eq first,parameter?_eq first,moved]
  simp only [Text.trim,Text.trimBy_around blankLead blankTrail]
  rw [Text.trimBy_eq_self quote_trimmed,Text.trimBy_eq_self trimmed,bare]

def segments (cs : List Char) : List (List Char) := Text.splitBy (· == ';') cs

theorem splitMime_ofList {cs first : List Char} {rest : List (List Char)}
    (parts : segments cs = first :: rest) : splitMime (String.ofList cs) =
      (String.ofList (Text.lower (Text.trim first)),rest.filterMap parameter?) := by
  rw [segments] at parts
  rw [splitMime,String.toList_ofList,parts]

theorem splitMime_lower (cs : List Char) :
    splitMime (String.ofList (Text.lower cs)) = splitMime (String.ofList cs) := by
  obtain ⟨first,rest,parts⟩ := List.exists_cons_of_ne_nil (Text.splitBy_ne_nil (· == ';') cs)
  have recased : segments (Text.lower cs) = Text.lower first :: rest.map Text.lower := by
    rw [segments,Text.lower,Text.splitBy_map (Text.beq_toLower rfl),parts]
    rfl
  have same : parameter? ∘ Text.lower = parameter? := funext parameter?_lower
  rw [splitMime_ofList recased,splitMime_ofList parts,Text.trim_lower,Text.lower_lower,
    List.filterMap_map,same]

/-- A segment can be exchanged for another that reads alike in its place. -/
theorem splitMime_exchange {cs ds segment other : List Char} {before after : List (List Char)}
    (parts : segments cs = before ++ segment :: after)
    (parts' : segments ds = before ++ other :: after)
    (essence : before = [] → Text.lower (Text.trim other) = Text.lower (Text.trim segment))
    (parameter : before ≠ [] → parameter? other = parameter? segment) :
    splitMime (String.ofList ds) = splitMime (String.ofList cs) := by
  cases before with
  | nil => rw [splitMime_ofList parts,splitMime_ofList parts',essence rfl]
  | cons first before =>
    rw [List.cons_append] at parts parts'
    have same := parameter (List.cons_ne_nil _ _)
    simp only [splitMime_ofList parts,splitMime_ofList parts',List.filterMap_append,
      List.filterMap_cons,same]

private theorem segments_break (before after : List Char) :
    segments (before ++ ';' :: after) = segments before ++ segments after := by
  rw [segments,segments,segments]
  exact Text.splitBy_append (by rfl) before after

private theorem segments_of_notMem {segment : List Char} (whole : ';' ∉ segment) :
    segments segment = [segment] :=
  Text.splitBy_of_not_mem (plain_of_notMem whole)

/-- Where a gap is, between the two parts of a segment: at an end of the segment, or beside the
first equals sign of a parameter. -/
theorem Gap.segment {before after last first : List Char} {front rest : List (List Char)}
    (gap : Gap before after) (parts : segments before = front ++ [last])
    (parts' : segments after = first :: rest) :
    last = [] ∨ first = [] ∨ front ≠ [] ∧ '=' ∉ last ∧ (∃ value, first = '=' :: value) ∨
      front ≠ [] ∧ ∃ key, '=' ∉ key ∧ last = key ++ ['='] := by
  have inside {before key : List Char} (whole : ';' ∉ key)
      (parts : segments (before ++ ';' :: key) = front ++ [last]) : front ≠ [] ∧ last = key := by
    rw [segments_break,segments_of_notMem whole] at parts
    obtain ⟨rfl,same⟩ := List.append_inj' parts rfl
    cases same
    exact ⟨Text.splitBy_ne_nil _ _,rfl⟩
  cases gap with
  | start =>
    obtain ⟨-,same⟩ := List.append_inj' (show [] ++ [[]] = front ++ [last] from parts) rfl
    cases same
    exact .inl rfl
  | ended => cases parts'; exact .inr (.inl rfl)
  | beforeBreak => cases parts'; exact .inr (.inl rfl)
  | afterBreak before =>
    obtain ⟨-,same⟩ := inside List.not_mem_nil parts
    exact .inl same
  | beforeEquals before whole equals after =>
    obtain ⟨nonempty,rfl⟩ := inside whole parts
    obtain ⟨value,more,later⟩ := List.exists_cons_of_ne_nil (Text.splitBy_ne_nil (· == ';') after)
    have begun : segments ('=' :: after) = ('=' :: value) :: more := by
      rw [segments,Text.splitBy,later]
      rfl
    cases begun.symm.trans parts'
    exact .inr (.inr (.inl ⟨nonempty,equals,value,rfl⟩))
  | @afterEquals before key whole equals after =>
    have whole' : ';' ∉ key ++ ['='] := by simpa using whole
    obtain ⟨nonempty,rfl⟩ := inside whole' parts
    exact .inr (.inr (.inr ⟨nonempty,key,equals,rfl⟩))

theorem Gap.splitMime {before after blanks : List Char} (gap : Gap before after)
    (blank : ∀ c ∈ blanks, Text.isBlank c) :
    splitMime (String.ofList (before ++ blanks ++ after)) =
      splitMime (String.ofList (before ++ after)) := by
  obtain ⟨front,last,parts⟩ := (List.eq_nil_or_concat' _).resolve_left
    (Text.splitBy_ne_nil (· == ';') before)
  obtain ⟨first,rest,parts'⟩ := List.exists_cons_of_ne_nil (Text.splitBy_ne_nil (· == ';') after)
  -- The blanks come into the one segment that both sides have a part of; all others stay.
  have joined : segments (before ++ after) = front ++ (last ++ first) :: rest :=
    Text.splitBy_join parts parts'
  have whole : segments blanks = [] ++ [blanks] := segments_of_notMem (notMem_of_blank rfl blank)
  have led : segments (blanks ++ after) = (blanks ++ first) :: rest :=
    Text.splitBy_join whole parts'
  have spaced : segments (before ++ blanks ++ after) =
      front ++ (last ++ (blanks ++ first)) :: rest := by
    rw [List.append_assoc]
    exact Text.splitBy_join parts led
  have led_trim (cs : List Char) : Text.trim (blanks ++ cs) = Text.trim cs :=
    Text.trimBy_lead_append blank cs
  have trailed_trim (cs : List Char) : Text.trim (cs ++ blanks) = Text.trim cs :=
    Text.trimBy_append blank cs
  obtain rfl | rfl | ⟨nonempty,equals,value,rfl⟩ | ⟨nonempty,key,equals,rfl⟩ :=
    gap.segment parts parts'
  · have read := parameter?_around blank (List.forall_mem_nil _) first
    rw [List.append_nil] at read
    exact splitMime_exchange joined spaced (fun _ => congrArg Text.lower (led_trim first))
      fun _ => read
  · have read := parameter?_around (List.forall_mem_nil _) blank last
    rw [List.nil_append] at read
    rw [List.append_nil] at joined spaced
    exact splitMime_exchange joined spaced (fun _ => congrArg Text.lower (trailed_trim last))
      fun _ => read
  · have noBlanks : '=' ∉ blanks := notMem_of_blank rfl blank
    have equals' : '=' ∉ last ++ blanks := by simp [equals,noBlanks]
    refine splitMime_exchange joined spaced (absurd · nonempty) fun _ => ?_
    rw [← List.append_assoc,parameter?_eq equals',parameter?_eq equals,trailed_trim]
  · refine splitMime_exchange joined spaced (absurd · nonempty) fun _ => ?_
    rw [List.append_assoc,List.append_assoc,List.singleton_append,List.singleton_append,
      parameter?_eq equals,parameter?_eq equals,led_trim]

theorem segments_append {rest : List Char} (ends : Ends rest) (cs : List Char) :
    segments (cs ++ rest) = segments cs ++ (segments rest).tail := by
  cases rest with
  | nil => rw [List.append_nil,segments,segments,Text.splitBy,List.tail_cons,List.append_nil]
  | cons c rest =>
    cases ends c rfl
    rw [segments_break]
    rfl

/-- A parameter stands between those of the text before it and those of the text after it. -/
theorem splitMime_insert {segment rest : List Char} (whole : ';' ∉ segment) (ends : Ends rest)
    (before : List Char) : ∃ essence earlier later,
      splitMime (String.ofList before) = (essence,earlier) ∧
      splitMime (String.ofList (before ++ rest)) = (essence,earlier ++ later) ∧
      splitMime (String.ofList (before ++ ';' :: segment ++ rest)) =
        (essence,earlier ++ (parameter? segment).toList ++ later) := by
  obtain ⟨first,more,parts⟩ := List.exists_cons_of_ne_nil (Text.splitBy_ne_nil (· == ';') before)
  have joined : segments (before ++ rest) = first :: (more ++ (segments rest).tail) := by
    rw [segments_append ends,segments,parts,List.cons_append]
  have inserted : segments (before ++ ';' :: segment ++ rest) =
      first :: (more ++ [segment] ++ (segments rest).tail) := by
    rw [segments_append ends,segments_break,segments_of_notMem whole,segments,parts]
    rfl
  have one : [segment].filterMap parameter? = (parameter? segment).toList := by
    cases read : parameter? segment <;> simp [read]
  refine ⟨_,_,(segments rest).tail.filterMap parameter?,splitMime_ofList parts,?_,?_⟩
  · rw [splitMime_ofList joined,List.filterMap_append]
  · rw [splitMime_ofList inserted,List.filterMap_append,List.filterMap_append,one]

theorem lookup_parameter {segment : List Char} {name : String} :
    (parameter? segment).toList.lookup name = none ↔ ¬ Names segment name := by
  rw [names_iff]
  cases parameter? segment with
  | none => simp
  | some entry =>
    obtain ⟨key,value⟩ := entry
    by_cases same : name = key
    · simp [same]
    · simp [same,Ne.symm same]

/-- Two types are of the same essence, with the same parameters as far as they count. -/
structure Alike (cs ds : List Char) : Prop where
  essence : (splitMime (.ofList ds)).1 = (splitMime (.ofList cs)).1
  lookup : ∀ name ∈ counted,
    (splitMime (.ofList ds)).2.lookup name = (splitMime (.ofList cs)).2.lookup name

theorem Alike.of_eq {cs ds : List Char}
    (same : splitMime (.ofList ds) = splitMime (.ofList cs)) : Alike cs ds :=
  ⟨congrArg Prod.fst same,fun name _ => congrArg (·.2.lookup name) same⟩

theorem Alike.trans {cs ds es : List Char} (first : Alike cs ds) (second : Alike ds es) :
    Alike cs es where
  essence := second.essence.trans first.essence
  lookup name counts := (second.lookup name counts).trans (first.lookup name counts)

/-- A parameter that comes in makes no difference under a name that is not its own, nor under one
that the text before it has already. -/
theorem alike_insert {segment rest : List Char} (whole : ';' ∉ segment) (ends : Ends rest)
    {before : List Char} (covered : ∀ name ∈ counted, Names segment name →
      (splitMime (.ofList before)).2.lookup name ≠ none) :
    Alike (before ++ rest) (before ++ ';' :: segment ++ rest) := by
  obtain ⟨essence,earlier,later,split,joined,inserted⟩ := splitMime_insert whole ends before
  rw [split] at covered
  refine ⟨by rw [joined,inserted],fun name counts => ?_⟩
  rw [joined,inserted,List.lookup_append,List.lookup_append,List.lookup_append]
  by_cases named : Names segment name
  · -- A look-up ends at the parameter that is there already.
    obtain ⟨value,there⟩ := Option.ne_none_iff_exists'.mp (covered name counts named)
    rw [there,Option.some_or,Option.some_or]
  · rw [lookup_parameter.mpr named,Option.or_none]

theorem Recased.toLower {c d : Char} (recased : Recased c d) : d.toLower = c.toLower := by
  obtain rfl | rfl | rfl := recased
  · rfl
  · exact Char.toLower_toLower_eq_toLower c
  · exact Char.toLower_toUpper_eq_toLower c

theorem lower_recased {cs ds : List Char} (letters : List.Forall₂ Recased cs ds) :
    Text.lower ds = Text.lower cs := by
  induction letters with
  | nil => rfl
  | cons recased _ ih =>
    rw [Text.lower,Text.lower,List.map_cons,List.map_cons,recased.toLower]
    exact congrArg _ ih

theorem splitMime_quoted {before key lead value trail rest : List Char} (first : '=' ∉ key)
    (whole : ';' ∉ key ++ '=' :: (lead ++ value ++ trail))
    (blankLead : ∀ c ∈ lead, Text.isBlank c) (blankTrail : ∀ c ∈ trail, Text.isBlank c)
    (trimmed : Text.Trimmed Text.isBlank value) (ends : Ends rest) :
    splitMime (.ofList
        (before ++ ';' :: (key ++ '=' :: (lead ++ '"' :: value ++ '"' :: trail)) ++ rest)) =
      splitMime (.ofList (before ++ ';' :: (key ++ '=' :: (lead ++ value ++ trail)) ++ rest)) := by
  have whole' : ';' ∉ key ++ '=' :: (lead ++ '"' :: value ++ '"' :: trail) := by
    simpa using whole
  have parts {segment : List Char} (whole : ';' ∉ segment) :
      segments (before ++ ';' :: segment ++ rest) =
        segments before ++ segment :: (segments rest).tail := by
    rw [segments_append ends,segments_break,segments_of_notMem whole,List.append_assoc]
    rfl
  refine splitMime_exchange (parts whole) (parts whole') ?_ fun _ => ?_
  · exact fun none => absurd none (Text.splitBy_ne_nil _ _)
  · exact parameter?_quoted first blankLead blankTrail trimmed

theorem Names.unique {segment : List Char} {name other : String} (named : Names segment name)
    (named' : Names segment other) : other = name := by
  obtain ⟨value,read⟩ := names_iff.mp named
  obtain ⟨value',read'⟩ := names_iff.mp named'
  cases read.symm.trans read'
  rfl

theorem Names.lookup {segment rest : List Char} {name : String} (named : Names segment name)
    (whole : ';' ∉ segment) (ends : Ends rest) (before : List Char) :
    (splitMime (.ofList (before ++ ';' :: segment ++ rest))).2.lookup name ≠ none := by
  obtain ⟨_,_,_,-,-,inserted⟩ := splitMime_insert whole ends before
  have there := lookup_parameter.not.mpr (not_not.mpr named)
  rw [inserted,List.lookup_append,List.lookup_append]
  simp only [ne_eq,Option.or_eq_none_iff,there,and_false,false_and,not_false_eq_true]

theorem Respelling.alike {cs ds : List Char} (step : Respelling cs ds) : Alike cs ds := by
  cases step with
  | recased letters =>
    apply Alike.of_eq
    rw [← splitMime_lower ds,lower_recased letters,splitMime_lower]
  | spaced gap blank => exact .of_eq (gap.splitMime blank)
  | quoted before key lead value trail rest first whole blankLead blankTrail trimmed ends =>
    exact .of_eq (splitMime_quoted first whole blankLead blankTrail trimmed ends)
  | unrelated before segment rest whole unnamed ends =>
    exact alike_insert whole ends fun name counts named => absurd named (unnamed name counts)
  | repeated before first between again rest whole counts earlier later separate ends =>
    refine alike_insert whole.2 ends fun other _ named => ?_
    rw [later.unique named]
    exact earlier.lookup whole.1 separate before

theorem alike_of_steps {cs ds : List Char} (steps : Relation.ReflTransGen Respelling cs ds) :
    Alike cs ds := by
  induction steps with
  | refl => exact .of_eq rfl
  | tail _ step ih => exact ih.trans step.alike

theorem ofParts?_congr (essence : String) {ps qs : List (String × String)}
    (same : ∀ name ∈ counted, qs.lookup name = ps.lookup name) :
    ofParts? essence qs = ofParts? essence ps := by
  rw [ofParts?,ofParts?,same "profile" (by decide),same "framework" (by decide)]

theorem parse_eq (mime : String) : parse mime =
    (ofParts? (splitMime mime).1 (splitMime mime).2).elim (.error (.unknownMimeType mime)) .ok := by
  rw [parse]
  dsimp only
  cases ofParts? (splitMime mime).1 (splitMime mime).2 <;> rfl

/-- A type that is spelled anew is of the same kind, or unknown as it was; and the type that names
a kind still names it however it is spelled. -/
theorem respelled_kind {s t : String} (respelled : Respelled s t) :
    ((∃ kind, parse s = .ok kind ∧ parse t = .ok kind) ∨
      parse s = .error (.unknownMimeType s) ∧ parse t = .error (.unknownMimeType t)) ∧
    ∀ kind, s = mimeType kind → parse t = .ok kind := by
  obtain ⟨essence,lookup⟩ := alike_of_steps respelled
  rw [String.ofList_toList,String.ofList_toList] at essence lookup
  have same := ofParts?_congr (splitMime t).1 lookup
  have agree : (∃ kind, parse s = .ok kind ∧ parse t = .ok kind) ∨
      parse s = .error (.unknownMimeType s) ∧ parse t = .error (.unknownMimeType t) := by
    rw [parse_eq s,parse_eq t,same,essence]
    cases ofParts? (splitMime s).1 (splitMime s).2 with
    | none => exact .inr ⟨rfl,rfl⟩
    | some kind => exact .inl ⟨kind,rfl,rfl⟩
  refine ⟨agree,?_⟩
  rintro kind rfl
  obtain ⟨_,known,read⟩ | ⟨unknown,-⟩ := agree
  · cases known.symm.trans (parse_mimeType kind)
    exact read
  · cases unknown.symm.trans (parse_mimeType kind)

namespace Sample

/-- The type of pages that talk to their host, with a parameter that says nothing of the kind and
a second profile that comes too late. -/
def respelled : String := "Text/HTML ;charset=utf-8;profile=\"mcp-app\";profile=none"

end Sample

theorem respelled_kind_sample :
    Respelled appType Sample.respelled ∧ parse Sample.respelled = .ok .app := by
  have cased : Respelling appType.toList "Text/HTML;profile=mcp-app".toList :=
    .recased (by simp [appType,Recased])
  have spaced := Respelling.spaced (.beforeBreak "Text/HTML".toList "profile=mcp-app".toList)
    (List.forall_mem_singleton.mpr (show Text.isBlank ' ' from rfl))
  have quoted := Respelling.quoted "Text/HTML ".toList "profile".toList [] "mcp-app".toList [] []
    (by decide) (by decide) (List.forall_mem_nil _) (List.forall_mem_nil _)
    (.of_forall (by simp [Text.isBlank])) (by decide)
  have parted := Respelling.unrelated "Text/HTML ".toList "charset=utf-8".toList
    ";profile=\"mcp-app\"".toList (by decide) (by decide) (by decide)
  have repeated := Respelling.repeated "Text/HTML ;charset=utf-8".toList
    "profile=\"mcp-app\"".toList [] "profile=none".toList [] (by decide)
    (show "profile" ∈ counted by decide) (by decide) (by decide) (by decide) (by decide)
  have respelled : Respelled appType Sample.respelled :=
    .head cased (.head spaced (.head quoted (.head parted (.single repeated))))
  exact ⟨respelled,(respelled_kind respelled).2 .app rfl⟩

end ToolView.ViewKind
