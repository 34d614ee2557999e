import Mathlib
import ToolView.Host.Policy
import ToolView.Proofs.Text

/-! The policy of a view as a browser reads it. A policy is read by cutting it at its semicolons and
each piece at its white space. What is read are the directives that were written, whatever names the
view gave, for a name that could be taken for more than one source is not written at all. -/

namespace ToolView

namespace ViewSources

/-- Whether a name is one source and nothing more: it is not empty, and has no white space, no
separator and no quote in it. -/
def Plain (name : String) : Prop :=
  name ≠ "" ∧ ∀ c ∈ name.toList, Text.isBlank c = false ∧ c ∉ [';',',','\'','"']

theorem isSource_iff {name : String} : isSource name = true ↔ Plain name := by
  simp only [isSource,isBreaking,Plain,Bool.and_eq_true,Bool.not_eq_true',List.any_eq_false,
    String.isEmpty_eq_false_iff,Bool.or_eq_true,beq_iff_eq,List.mem_cons,List.not_mem_nil,or_false,
    not_or,Bool.not_eq_true,and_assoc]

instance : DecidablePred Plain := fun _ => decidable_of_iff _ isSource_iff

def lists : List (ViewSources → Option (List String)) := [connect,resource,frame,baseUri]

def listed (names : Option (List String)) : List String := (names.getD []).filter fun n => Plain n

/-- A list of names, and the same list with others between them that are no sources. -/
inductive Padded : List String → List String → Prop
  | nil : Padded [] []
  | kept (name) {names names'} (rest : Padded names names') : Padded (name :: names) (name :: names')
  | added (name) {names names'} (refused : ¬ Plain name) (rest : Padded names names') :
      Padded names (name :: names')

theorem kept_eq_filter (names : List String) : kept names = names.filter fun n => Plain n := by
  rw [kept]
  congr 1
  funext name
  rw [Bool.eq_iff_iff,isSource_iff,decide_eq_true_iff]

theorem keptOf_eq_listed (names : Option (List String)) : keptOf names = listed names :=
  kept_eq_filter _

theorem Padded.filter_eq {names names' : List String} (padded : Padded names names') :
    names'.filter (fun n => Plain n) = names.filter fun n => Plain n := by
  induction padded with
  | nil => rfl
  | kept name rest ih => rw [List.filter_cons,List.filter_cons,ih]
  | added name refused rest ih =>
    rw [List.filter_cons,ih,if_neg (by simpa using refused)]

end ViewSources

namespace Csp
open ViewSources

/-- One directive as it is read: the first word is its name, the others are its sources. -/
def Directive.ofChars (cs : List Char) : Directive :=
  match (Text.words (Text.trimBy Text.isAsciiBlank cs)).map String.ofList with
  | [] => ⟨"",[]⟩
  | name :: sources => ⟨name,sources⟩

def read (policy : String) : List Directive :=
  (Text.splitBy (· == ';') policy.toList).map Directive.ofChars

/-- Whether a text stays one word of a directive when it is read. -/
def IsToken (text : String) : Prop := Text.IsWord text.toList ∧ ';' ∉ text.toList

instance : DecidablePred IsToken := fun _ => inferInstanceAs (Decidable (_ ∧ _))

theorem Directive.toList_write (d : Directive) :
    d.write.toList = [' '].intercalate ((d.name :: d.sources).map String.toList) :=
  String.toList_intercalate

theorem Directive.ofChars_append_blanks {lead : List Char} (blank : ∀ c ∈ lead, Text.isAsciiBlank c)
    (cs : List Char) : ofChars (lead ++ cs) = ofChars cs := by
  rw [ofChars,ofChars,Text.words_trimBy,Text.words_trimBy,Text.words_blanks_append blank]

theorem Directive.ofChars_write {d : Directive} (tokens : ∀ t ∈ d.name :: d.sources, IsToken t) :
    ofChars d.write.toList = d := by
  have all : ∀ w ∈ (d.name :: d.sources).map String.toList, Text.IsWord w := by
    intro w member
    obtain ⟨t,inside,rfl⟩ := List.mem_map.mp member
    exact (tokens t inside).1
  have back : ((d.name :: d.sources).map String.toList).map String.ofList = d.name :: d.sources := by
    rw [List.map_map]
    exact List.map_id'' (fun t => String.ofList_toList) _
  rw [ofChars,Text.words_trimBy,Directive.toList_write,Text.words_intercalate all,back]

theorem Directive.not_mem_write {d : Directive} (tokens : ∀ t ∈ d.name :: d.sources, IsToken t) :
    ∀ c ∈ d.write.toList, (c == ';') = false := by
  intro c member
  rw [Directive.toList_write] at member
  obtain blank | ⟨piece,inside,there⟩ := Text.mem_intercalate member
  · rw [List.mem_singleton.mp blank]
    rfl
  · obtain ⟨t,listed,rfl⟩ := List.mem_map.mp inside
    rw [beq_eq_false_iff_ne]
    rintro rfl
    exact (tokens t listed).2 there

/-- Directives that were written are read again as they were. -/
theorem read_write {first : Directive} {rest : List Directive}
    (tokens : ∀ d ∈ first :: rest, ∀ t ∈ d.name :: d.sources, IsToken t) :
    read ("; ".intercalate ((first :: rest).map Directive.write)) = first :: rest := by
  have pieces : ∀ piece ∈ (first :: rest).map (·.write.toList), ∀ c ∈ piece, (c == ';') = false :=
    List.forall_mem_map.mpr fun d member => Directive.not_mem_write (tokens d member)
  have joined : ("; ".intercalate ((first :: rest).map Directive.write)).toList =
      [';',' '].intercalate ((first :: rest).map (·.write.toList)) := by
    rw [String.toList_intercalate,List.map_map]
    rfl
  -- The first piece is as it was written, and every other one has a space in front.
  have back : ∀ d ∈ first :: rest, Directive.ofChars d.write.toList = d := fun d member =>
    Directive.ofChars_write (tokens d member)
  have tail : rest.map (fun d => Directive.ofChars ([' '] ++ d.write.toList)) = rest := by
    conv_rhs => rw [← List.map_id rest]
    apply List.map_congr_left
    intro d member
    rw [Directive.ofChars_append_blanks (List.forall_mem_singleton.mpr rfl),
      back d (List.mem_cons_of_mem _ member),id]
  rw [List.map_cons] at pieces
  rw [read,joined,List.map_cons,
    Text.splitBy_intercalate (p := (· == ';')) rfl (List.forall_mem_singleton.mpr rfl) pieces,
    List.map_cons,back first List.mem_cons_self,List.map_map,List.map_map]
  simp only [Function.comp_def,tail]

theorem isToken_of_plain {name : String} (plain : Plain name) : IsToken name := by
  obtain ⟨full,clean⟩ := plain
  refine ⟨⟨fun empty => full (String.toList_eq_nil_iff.mp empty),fun c member => ?_⟩,?_⟩
  · have dark := (clean c member).1
    by_contra blank
    simp only [Text.isAsciiBlank,decide_eq_true_eq,Bool.not_eq_false,List.mem_cons,
      List.not_mem_nil,or_false] at blank
    rcases blank with rfl | rfl | rfl | rfl | rfl <;> cases dark
  · exact fun member => (clean ';' member).2 (by decide)

/-- A directive has the sources that it has for every view, and beside them only names that are
sources. -/
theorem mem_directives {s : ViewSources} {d : Directive} (member : d ∈ directives s) :
    ∃ d₀ ∈ directives .none, d₀.name = d.name ∧ ∀ t ∈ d.sources, t ∈ d₀.sources ∨ Plain t := by
  have plain (names : Option (List String)) {t : String} (inside : t ∈ keptOf names) : Plain t :=
    isSource_iff.mp (List.mem_filter.mp inside).2
  have grown (fixed : List String) (names : Option (List String)) :
      ∀ t ∈ fixed ++ keptOf names, t ∈ fixed ∨ Plain t :=
    fun t inside => (List.mem_append.mp inside).imp id (plain names)
  simp only [directives,List.mem_cons,List.not_mem_nil,or_false] at member
  rcases member with rfl | rfl | rfl | rfl | rfl | rfl | rfl | rfl | rfl | rfl
  · exact ⟨⟨"default-src",["'none'"]⟩,by decide,rfl,fun t => .inl⟩
  · exact ⟨⟨"script-src",["'self'","'unsafe-inline'"]⟩,by decide,rfl,grown _ s.resource⟩
  · exact ⟨⟨"style-src",["'self'","'unsafe-inline'"]⟩,by decide,rfl,grown _ s.resource⟩
  · exact ⟨⟨"img-src",["'self'","data:"]⟩,by decide,rfl,grown _ s.resource⟩
  · exact ⟨⟨"font-src",["'self'"]⟩,by decide,rfl,grown _ s.resource⟩
  · exact ⟨⟨"media-src",["'self'","data:"]⟩,by decide,rfl,grown _ s.resource⟩
  · exact ⟨⟨"connect-src",["'self'"]⟩,by decide,rfl,grown _ s.connect⟩
  · refine ⟨⟨"frame-src",["'none'"]⟩,by decide,rfl,fun t inside => ?_⟩
    dsimp only at inside
    split_ifs at inside
    · exact .inl inside
    · exact .inr (plain s.frame inside)
  · exact ⟨⟨"base-uri",["'self'"]⟩,by decide,rfl,grown _ s.baseUri⟩
  · exact ⟨⟨"object-src",["'none'"]⟩,by decide,rfl,fun t => .inl⟩

theorem isToken_of_mem_directives {s : ViewSources} {d : Directive} (member : d ∈ directives s) :
    ∀ t ∈ d.name :: d.sources, IsToken t := by
  have own : ∀ d ∈ directives .none, ∀ t ∈ d.name :: d.sources, IsToken t := by decide +kernel
  obtain ⟨d₀,fixed,name,sources⟩ := mem_directives member
  rw [List.forall_mem_cons]
  refine ⟨name ▸ own d₀ fixed d₀.name List.mem_cons_self,fun t inside => ?_⟩
  obtain known | plain := sources t inside
  · exact own d₀ fixed t (List.mem_cons_of_mem _ known)
  · exact isToken_of_plain plain

theorem read_policy_eq (s : Option ViewSources) : read (policy s) = directives (s.getD .none) :=
  read_write fun _ => isToken_of_mem_directives

/-- A policy depends on the names that are sources and on nothing else. -/
theorem policy_congr {s s' : Option ViewSources}
    (same : ∀ list ∈ lists, keptOf (s.bind list) = keptOf (s'.bind list)) :
    policy s = policy s' := by
  have kept (s : Option ViewSources) (list : ViewSources → Option (List String))
      (nothing : list .none = .none) : keptOf (list (s.getD .none)) = keptOf (s.bind list) := by
    cases s with
    | none => exact congrArg keptOf nothing
    | some s => rfl
  have apply (list : ViewSources → Option (List String)) (member : list ∈ lists)
      (nothing : list .none = .none) :
      keptOf (list (s.getD .none)) = keptOf (list (s'.getD .none)) := by
    rw [kept s list nothing,kept s' list nothing,same list member]
  rw [policy,policy]
  simp only [directives,apply connect (by simp [lists]) rfl,apply resource (by simp [lists]) rfl,
    apply frame (by simp [lists]) rfl,apply baseUri (by simp [lists]) rfl]

/-- A policy is read as ten directives in one order, whatever the view names: each with its own
keywords, and behind them the names of its list that are sources. So where a source has a quote in
it, the directive of that name has it for every view; and names that are no sources, wherever they
stand between the others, make no difference. -/
theorem policy_reads (s : Option ViewSources) :
    read (policy s) =
      [⟨"default-src",["'none'"]⟩,
        ⟨"script-src",["'self'","'unsafe-inline'"] ++ listed (s.bind (·.resource))⟩,
        ⟨"style-src",["'self'","'unsafe-inline'"] ++ listed (s.bind (·.resource))⟩,
        ⟨"img-src",["'self'","data:"] ++ listed (s.bind (·.resource))⟩,
        ⟨"font-src",["'self'"] ++ listed (s.bind (·.resource))⟩,
        ⟨"media-src",["'self'","data:"] ++ listed (s.bind (·.resource))⟩,
        ⟨"connect-src",["'self'"] ++ listed (s.bind (·.connect))⟩,
        ⟨"frame-src",if listed (s.bind (·.frame)) = [] then ["'none'"]
          else listed (s.bind (·.frame))⟩,
        ⟨"base-uri",["'self'"] ++ listed (s.bind (·.baseUri))⟩,
        ⟨"object-src",["'none'"]⟩] ∧
    (∀ d ∈ read (policy s), ∃ d₀ ∈ read (policy .none), d₀.name = d.name ∧
      ∀ source ∈ d.sources, '\'' ∈ source.toList ∨ '"' ∈ source.toList → source ∈ d₀.sources) ∧
    ∀ s' : Option ViewSources,
      (∀ list ∈ lists, Padded ((s.bind list).getD []) ((s'.bind list).getD [])) →
      policy s' = policy s := by
  refine ⟨?_,?_,?_⟩
  · rw [read_policy_eq]
    simp only [directives,keptOf_eq_listed,List.isEmpty_iff]
    cases s <;> rfl
  · intro d member
    rw [read_policy_eq] at member
    rw [read_policy_eq]
    obtain ⟨d₀,fixed,name,sources⟩ := mem_directives member
    refine ⟨d₀,fixed,name,fun source inside quoted => (sources source inside).resolve_right ?_⟩
    rintro ⟨-,clean⟩
    obtain quote | quote := quoted
    · exact (clean _ quote).2 (by decide)
    · exact (clean _ quote).2 (by decide)
  · intro s' padded
    apply policy_congr
    intro list member
    rw [keptOf_eq_listed,keptOf_eq_listed]
    exact (padded list member).filter_eq

namespace Sample

def modest : ViewSources :=
  ⟨some ["https://api.example"],some ["https://cdn.example"],some [],.none⟩

/-- The same view with names that would add a keyword, a directive, a second source or none. -/
def hostile : ViewSources :=
  ⟨some ["'unsafe-eval'","https://api.example","https://evil.example; script-src *"],
    some ["","https://cdn.example"],some ["https://a.example\u00a0*"],.none⟩

end Sample

/-- The hostile names make no difference. -/
theorem policy_reads_hostile :
    (∀ list ∈ lists, Padded (((some Sample.modest).bind list).getD [])
      (((some Sample.hostile).bind list).getD [])) ∧
    policy (some Sample.hostile) = policy (some Sample.modest) ∧
    read (policy (some Sample.hostile)) =
      [⟨"default-src",["'none'"]⟩,
        ⟨"script-src",["'self'","'unsafe-inline'","https://cdn.example"]⟩,
        ⟨"style-src",["'self'","'unsafe-inline'","https://cdn.example"]⟩,
        ⟨"img-src",["'self'","data:","https://cdn.example"]⟩,
        ⟨"font-src",["'self'","https://cdn.example"]⟩,
        ⟨"media-src",["'self'","data:","https://cdn.example"]⟩,
        ⟨"connect-src",["'self'","https://api.example"]⟩,
        ⟨"frame-src",["'none'"]⟩,
        ⟨"base-uri",["'self'"]⟩,
        ⟨"object-src",["'none'"]⟩] := by
  have padded : ∀ list ∈ lists, Padded (((some Sample.modest).bind list).getD [])
      (((some Sample.hostile).bind list).getD []) := by
    refine List.forall_mem_cons.mpr ⟨?_,List.forall_mem_cons.mpr ⟨?_,List.forall_mem_cons.mpr
      ⟨?_,List.forall_mem_singleton.mpr .nil⟩⟩⟩
    · exact .added _ (by decide +kernel) (.kept _ (.added _ (by decide +kernel) .nil))
    · exact .added _ (by decide +kernel) (.kept _ .nil)
    · exact .added _ (by decide +kernel) .nil
  obtain ⟨directives,-,padding⟩ := policy_reads (some Sample.modest)
  have same := padding (some Sample.hostile) padded
  refine ⟨padded,same,?_⟩
  rw [same,directives]
  decide +kernel

end Csp

end ToolView
