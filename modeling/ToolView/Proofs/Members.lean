import Mathlib
import ToolView.Json

/-! Dictionaries are determined by their look-ups, and so is one that holds values under their own
keys by the values; what a record of members is looked up to be: the value given under the key,
where one is given. -/

namespace ToolView

namespace Entries

universe u
variable {α : Type u}

theorem get?_eq_none_of_below {key : String} {es : List (String × α)}
    (below : ∀ e ∈ es, key < e.1) : get? key es = none := by
  induction es with
  | nil => rfl
  | cons e es ih =>
    rw [get?_cons,if_neg (below e List.mem_cons_self).ne',
      ih fun d member => below d (List.mem_cons_of_mem _ member)]

theorem get?_eq_none_of_notMem {key : String} {es : List (String × α)}
    (absent : key ∉ es.map (·.1)) : get? key es = none := by
  induction es with
  | nil => rfl
  | cons e es ih =>
    rw [List.map_cons,List.mem_cons,not_or] at absent
    rw [get?_cons,if_neg (Ne.symm absent.1),ih absent.2]

theorem get?_of_mem {es : List (String × α)} (distinct : (es.map (·.1)).Nodup) {e : String × α}
    (member : e ∈ es) : get? e.1 es = some e.2 := by
  induction es with
  | nil => cases member
  | cons first es ih =>
    obtain ⟨apart,rest⟩ := List.nodup_cons.mp distinct
    rw [get?_cons]
    rcases List.mem_cons.mp member with rfl | later
    · rw [if_pos rfl]
    · have other : first.1 ≠ e.1 := by
        intro same
        have there : e.1 ∈ es.map (·.1) := List.mem_map_of_mem later
        rw [← same] at there
        exact apart there
      rw [if_neg other,ih rest later]

theorem get?_middle {key : String} {before : List (String × α)} (apart : key ∉ before.map (·.1))
    (value : α) (after : List (String × α)) (key' : String) :
    get? key' (before ++ (key,value) :: after) =
      if key = key' then some value else get? key' (before ++ after) := by
  induction before with
  | nil => exact get?_cons key' (key,value) after
  | cons e before ih =>
    rw [List.map_cons,List.mem_cons,not_or] at apart
    rw [List.cons_append,get?_cons,ih apart.2,List.cons_append,get?_cons]
    split_ifs with first second
    · exact absurd (second.trans first.symm) apart.1
    · rfl
    · rfl
    · rfl

theorem get?_eq_some_iff {es : List (String × α)} (order : Ascending es) {key : String} {value : α} :
    get? key es = some value ↔ (key,value) ∈ es := by
  induction es with
  | nil => simp
  | cons e es ih =>
    obtain ⟨below,rest⟩ := List.pairwise_cons.mp order
    rw [get?_cons,List.mem_cons]
    split_ifs with here
    · subst here
      refine ⟨fun same => .inl (Prod.ext rfl (Option.some.inj same).symm),?_⟩
      rintro (same | later)
      · rw [← same]
      · exact absurd (below _ later) (lt_irrefl _)
    · rw [ih rest]
      refine ⟨.inr,?_⟩
      rintro (same | later)
      · exact absurd (congrArg Prod.fst same).symm here
      · exact later

private theorem head_le {a b : String × α} {as bs : List (String × α)}
    (order : Ascending (b :: bs)) (same : ∀ key, get? key (a :: as) = get? key (b :: bs)) :
    b.1 ≤ a.1 := by
  by_contra before
  have found := same a.1
  rw [get?_cons,if_pos rfl,get?_eq_none_of_below] at found
  · cases found
  · intro e member
    rcases List.mem_cons.mp member with rfl | inside
    · exact not_le.mp before
    · exact (not_le.mp before).trans ((List.pairwise_cons.mp order).1 e inside)

theorem eq_of_get? {as bs : List (String × α)} (first : Ascending as) (second : Ascending bs)
    (same : ∀ key, get? key as = get? key bs) : as = bs := by
  induction as generalizing bs with
  | nil =>
    cases bs with
    | nil => rfl
    | cons b bs => have found := same b.1; rw [get?_cons,if_pos rfl] at found; cases found
  | cons a as ih =>
    cases bs with
    | nil => have found := same a.1; rw [get?_cons,if_pos rfl] at found; cases found
    | cons b bs =>
      have key : a.1 = b.1 :=
        le_antisymm (head_le first fun key => (same key).symm) (head_le second same)
      have value := same a.1
      rw [get?_cons,get?_cons,if_pos rfl,if_pos key.symm] at value
      obtain ⟨below,restFirst⟩ := List.pairwise_cons.mp first
      obtain ⟨above,restSecond⟩ := List.pairwise_cons.mp second
      -- Below the common first key neither list has anything, so the rests agree everywhere.
      have tail : as = bs := by
        apply ih restFirst restSecond
        intro k
        by_cases here : a.1 = k
        · subst k
          rw [get?_eq_none_of_below below,get?_eq_none_of_below]
          intro e member
          exact key ▸ above e member
        · have rest := same k
          rwa [get?_cons,get?_cons,if_neg here,if_neg (key ▸ here)] at rest
      rw [tail,Prod.ext key (Option.some.inj value)]

end Entries

namespace Dict

universe u
variable {α : Type u}

theorem ext_get? {a b : Dict α} (same : ∀ key, a.get? key = b.get? key) : a = b :=
  Dict.ext (Entries.eq_of_get? a.ascending b.ascending same)

theorem nodup_keys (d : Dict α) : (d.entries.map (·.1)).Nodup := by
  rw [List.Nodup,List.pairwise_map]
  exact d.ascending.imp fun before => ne_of_lt before

theorem get?_foldl_insert (es : List (String × α)) (distinct : (es.map (·.1)).Nodup) (d : Dict α)
    (key : String) :
    (es.foldl (fun d e => d.insert e.1 e.2) d).get? key =
      (Entries.get? key es).or (d.get? key) := by
  induction es generalizing d with
  | nil => rfl
  | cons e es ih =>
    obtain ⟨apart,rest⟩ := List.nodup_cons.mp distinct
    rw [List.foldl_cons,ih rest,Dict.get?_insert,Entries.get?_cons]
    by_cases here : e.1 = key
    · subst key
      rw [Entries.get?_eq_none_of_notMem apart,if_pos rfl,if_pos rfl]
      rfl
    · rw [if_neg here,if_neg here]

theorem get?_ofList {es : List (String × α)} (distinct : (es.map (·.1)).Nodup) (key : String) :
    (Dict.ofList es).get? key = Entries.get? key es := by
  rw [Dict.ofList,get?_foldl_insert es distinct,Dict.get?_empty,Option.or_none]

/-- Entries in their order make the dictionary that they are of. -/
theorem ofList_entries (d : Dict α) : Dict.ofList d.entries = d := by
  apply ext_get?
  intro key
  rw [get?_ofList d.nodup_keys]
  rfl

section Indexes

variable {key : α → String} {d : Dict α} {values : List α}

/-- The dictionary holds these values, each under its own key, and nothing else. -/
def Indexes (d : Dict α) (key : α → String) (values : List α) : Prop :=
  ∀ k v, d.get? k = some v ↔ key v = k ∧ v ∈ values

namespace Indexes

theorem empty : (Dict.empty : Dict α).Indexes key [] := by
  intro k v
  simp

theorem insert (indexes : d.Indexes key values) {value : α}
    (free : d.contains (key value) = false) :
    (d.insert (key value) value).Indexes key (values ++ [value]) := by
  intro k v
  rw [get?_insert,List.mem_append,List.mem_singleton]
  split_ifs with here
  · subst here
    constructor
    · rintro same
      cases same
      exact ⟨rfl,.inr rfl⟩
    · rintro ⟨same,before | rfl⟩
      · rw [Dict.contains,(indexes _ v).mpr ⟨same,before⟩] at free
        cases free
      · rfl
  · rw [indexes k v]
    constructor
    · rintro ⟨same,before⟩
      exact ⟨same,.inl before⟩
    · rintro ⟨same,before | rfl⟩
      · exact ⟨same,before⟩
      · exact absurd same here

theorem contains_iff (indexes : d.Indexes key values) {k : String} :
    d.contains k ↔ k ∈ values.map key := by
  rw [Dict.contains,Option.isSome_iff_exists,List.mem_map]
  simp only [indexes k,and_comm]

theorem mem_values (indexes : d.Indexes key values) {v : α} : v ∈ d.values ↔ v ∈ values := by
  rw [Dict.values,List.mem_map]
  constructor
  · rintro ⟨⟨k,_⟩,member,rfl⟩
    exact ((indexes k _).mp ((Entries.get?_eq_some_iff d.ascending).mpr member)).2
  · intro member
    have found := (indexes (key v) v).mpr ⟨rfl,member⟩
    exact ⟨(key v,v),(Entries.get?_eq_some_iff d.ascending).mp found,rfl⟩

theorem key_eq (indexes : d.Indexes key values) {e : String × α} (member : e ∈ d.entries) :
    key e.2 = e.1 :=
  ((indexes e.1 e.2).mp ((Entries.get?_eq_some_iff d.ascending).mpr member)).1

theorem ascending (indexes : d.Indexes key values) : d.values.Pairwise (key · < key ·) := by
  rw [Dict.values,List.pairwise_map]
  refine d.ascending.imp_of_mem fun first second before => ?_
  rw [indexes.key_eq first,indexes.key_eq second]
  exact before

/-- A dictionary of values under their own keys is determined by the values. -/
theorem unique (indexes : d.Indexes key values) {d' : Dict α} {values' : List α}
    (other : d'.Indexes key values') (same : ∀ v, v ∈ values ↔ v ∈ values') : d = d' := by
  apply ext_get?
  intro k
  apply Option.ext
  intro v
  rw [indexes k v,other k v,same]

end Indexes

end Indexes

end Dict

namespace Json

def members (ms : List (String × Option Json)) : Object :=
  Dict.ofList (ms.filterMap fun m => m.2.map (m.1,·))

theorem record_eq (ms : List (String × Option Json)) : record ms = ofObject (members ms) := rfl

theorem get?_filterMap (ms : List (String × Option Json))
    (distinct : (ms.map (·.1)).Nodup) (key : String) :
    Entries.get? key (ms.filterMap fun m => m.2.map (m.1,·)) = (Entries.get? key ms).join := by
  induction ms with
  | nil => rfl
  | cons m ms ih =>
    obtain ⟨apart,rest⟩ := List.nodup_cons.mp distinct
    rw [Entries.get?_cons]
    obtain ⟨name,value⟩ := m
    cases value with
    | none =>
      rw [List.filterMap_cons_none rfl,ih rest]
      split_ifs with here
      · subst here
        rw [Entries.get?_eq_none_of_notMem apart]
        rfl
      · rfl
    | some value =>
      simp only [List.filterMap_cons,Option.map_some,Entries.get?_cons,ih rest]
      split_ifs <;> rfl

theorem keys_sublist (ms : List (String × Option Json)) :
    ((ms.filterMap fun m => m.2.map (m.1,·)).map (·.1)).Sublist (ms.map (·.1)) := by
  induction ms with
  | nil => exact List.Sublist.refl _
  | cons m ms ih =>
    obtain ⟨name,value⟩ := m
    cases value with
    | none => exact ih.cons name
    | some value => exact ih.cons_cons name

theorem get?_members (ms : List (String × Option Json)) (distinct : (ms.map (·.1)).Nodup)
    (key : String) : (members ms).get? key = (Entries.get? key ms).join := by
  rw [members,Dict.get?_ofList (distinct.sublist (keys_sublist ms)),get?_filterMap ms distinct]

/-- A member that has its place takes a new value there. -/
theorem members_insert {key : String} (before : List (String × Option Json)) {old : Option Json}
    {after : List (String × Option Json)}
    (distinct : ((before ++ (key,old) :: after).map (·.1)).Nodup) (value : Json) :
    (members (before ++ (key,old) :: after)).insert key value =
      members (before ++ (key,some value) :: after) := by
  have keys : ((before ++ (key,some value) :: after).map (·.1)).Nodup := by
    rw [List.map_append,List.map_cons] at distinct ⊢
    exact distinct
  have apart : key ∉ before.map (·.1) := by
    rw [List.map_append,List.map_cons,List.nodup_append] at distinct
    exact fun member => distinct.2.2 key member key List.mem_cons_self rfl
  apply Dict.ext_get?
  intro key'
  rw [Dict.get?_insert,get?_members _ distinct,get?_members _ keys,Entries.get?_middle apart,
    Entries.get?_middle apart]
  split_ifs <;> rfl

theorem get?_record {ms : List (String × Option Json)} (distinct : (ms.map (·.1)).Nodup)
    (key : String) : (record ms).get? key = (Entries.get? key ms).join :=
  get?_members ms distinct key

end Json

end ToolView
