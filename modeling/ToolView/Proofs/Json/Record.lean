import Mathlib
import ToolView.Proofs.Json.Written
import ToolView.Proofs.Parts

/-! Records in texts. A text may give a member twice, or break off; so a record is read from a draft
only where each field is given once or has a default, and where nothing else stands in the way. What
the fields are given is all that counts. -/

namespace ToolView

namespace Json.Draft

def Keyed (draft : Draft) : Prop := ∀ value, draft ≠ .unkeyed value

theorem key_eq {m : String × Draft} (keyed : m.2.Keyed) : Tree.key m = .ok m.1 := by
  obtain ⟨key,draft⟩ := m
  cases draft with
  | unkeyed value => exact absurd rfl (keyed value)
  | null | bool _ | num _ | str _ | arr _ | obj _ | broken => rfl

def held (name : String) (members : List (String × Draft)) : List Draft :=
  (members.filter (·.1 = name)).map (·.2)

theorem held_cons (name : String) (m : String × Draft) (members : List (String × Draft)) :
    held name (m :: members) = if m.1 = name then m.2 :: held name members else held name members := by
  rw [held,List.filter_cons]
  by_cases here : m.1 = name <;> simp [here,held]

theorem held_of_distinct {members : List (String × Draft)} (distinct : (members.map (·.1)).Nodup)
    (name : String) : held name members = (Entries.get? name members).toList := by
  induction members with
  | nil => rfl
  | cons m members ih =>
    obtain ⟨apart,rest⟩ := List.nodup_cons.mp distinct
    rw [held_cons,Entries.get?_cons,ih rest]
    split_ifs with here
    · subst here
      rw [Entries.get?_eq_none_of_notMem apart]
      rfl
    · rfl

/-- The values that a field is given: those under its name, or the item in its place. -/
def given (place : ℕ) (name : String) : Draft → List Draft
  | .obj members => held name members
  | .arr items => items[place]?.toList
  | _ => []

def ungiven {α : Type} (absent short : Option α) : Draft → Option α
  | .obj _ => absent
  | .arr _ => short
  | _ => none

/-- Beside the fields there is nothing that is not passed over. -/
def Closed (names : List String) : Draft → Prop
  | .obj members => ∀ m ∈ members, m.2.Keyed ∧ (m.1 ∈ names ∨ m.2.isWhole = true)
  | .arr items => items.length ≤ names.length
  | _ => False

end Json.Draft

namespace Fields

open Json (Draft)

variable {α β : Type} {place : ℕ} {draft : Draft}

private theorem held_eq (name : String) (members : List (String × Draft)) (place : ℕ) :
    Draft.held name members =
      (find? name place members).elim [] fun found => found.2.1 :: Draft.held name found.2.2 := by
  induction members generalizing place with
  | nil => rfl
  | cons m members ih =>
    rw [Draft.held_cons,find?]
    split_ifs
    · rfl
    · exact ih (place + 1)

/-- The fields give this value, of which the first stands in this place. -/
def Yields (fields : Fields Draft α) (place : ℕ) : Draft → α → Prop
  | .obj members, value => fields.ofMembers members = .value value
  | .arr items, value => ∃ rest, fields.ofItems place (items.drop place) = .ok (value,rest)
  | _, _ => False

theorem yields_map {fields : Fields Draft α} {f : α → β} {value : β} :
    (f <$> fields).Yields place draft value ↔ ∃ x, fields.Yields place draft x ∧ f x = value := by
  cases draft with
  | obj members =>
    refine ⟨ofMembers_map,?_⟩
    rintro ⟨x,read,rfl⟩
    change (fields.ofMembers members).map f = _
    rw [show fields.ofMembers members = _ from read]
    rfl
  | arr items =>
    constructor
    · rintro ⟨rest,read⟩
      obtain ⟨x,read,same⟩ := ofItems_map read
      exact ⟨x,⟨rest,read⟩,same⟩
    · rintro ⟨x,⟨rest,read⟩,rfl⟩
      refine ⟨rest,?_⟩
      change (fields.ofItems place _ >>= fun taken => .ok (f taken.1,taken.2)) = _
      rw [read]
      rfl
  | null | bool _ | num _ | str _ | unkeyed _ | broken => simp [Yields]

theorem yields_seq {function : Fields Draft (α → β)} {fields : Fields Draft α} {value : β}
    (orderly : function.Orderly) :
    (function <*> fields).Yields place draft value ↔
      ∃ f x, function.Yields place draft f ∧
        fields.Yields (place + function.names.length) draft x ∧ f x = value := by
  cases draft with
  | obj members =>
    refine ⟨ofMembers_seq,?_⟩
    rintro ⟨f,x,first,second,rfl⟩
    change Outcome.both (function.ofMembers members) (fields.ofMembers members) = _
    rw [show function.ofMembers members = _ from first,show fields.ofMembers members = _ from second]
    rfl
  | arr items =>
    constructor
    · rintro ⟨rest,read⟩
      obtain ⟨f,x,middle,front,back,same⟩ := ofItems_seq read
      rw [orderly _ _ _ _ front,List.drop_drop] at back
      exact ⟨f,x,⟨middle,front⟩,⟨rest,back⟩,same⟩
    · rintro ⟨f,x,⟨middle,front⟩,⟨rest,back⟩,rfl⟩
      rw [← List.drop_drop,← orderly _ _ _ _ front] at back
      refine ⟨rest,?_⟩
      change (function.ofItems place _ >>= fun first =>
        fields.ofItems (place + function.names.length) first.2 >>= fun second =>
          .ok (first.1 second.1,second.2)) = _
      rw [front]
      change (fields.ofItems _ middle >>= fun second => .ok (f second.1,second.2)) = _
      rw [back]
      rfl
  | null | bool _ | num _ | str _ | unkeyed _ | broken => simp [Yields]

/-- A field takes the one value that it is given, or its default where it is given none. -/
theorem yields_field {name : String} {decode : Draft → Except DecodeError α}
    {absent short : Option α} {value : α} :
    (field name decode absent short).Yields place draft value ↔
      draft.given place name = [] ∧ draft.ungiven absent short = some value ∨
        ∃ part, draft.given place name = [part] ∧ decode part = .ok value := by
  cases draft with
  | obj members =>
    change (field name decode absent short).ofMembers members = .value value ↔
      Draft.held name members = [] ∧ absent = some value ∨
        ∃ part, Draft.held name members = [part] ∧ decode part = .ok value
    have first := held_eq name members 0
    simp only [field]
    cases found : find? name 0 members with
    | none =>
      rw [first,found]
      cases absent <;> simp
    | some there =>
      obtain ⟨there,part,rest⟩ := there
      rw [first,found,Option.elim_some,held_eq name rest (there + 1)]
      cases decodes : decode part with
      | error e => simp [decodes]
      | ok x => cases again : find? name (there + 1) rest <;> simp [decodes,again]
  | arr items =>
    have there : items[place]? = (items.drop place)[0]? := by rw [List.getElem?_drop,Nat.add_zero]
    change (∃ rest, (field name decode absent short).ofItems place (items.drop place) =
      .ok (value,rest)) ↔ items[place]?.toList = [] ∧ short = some value ∨
        ∃ part, items[place]?.toList = [part] ∧ decode part = .ok value
    rw [there]
    cases items.drop place with
    | nil => cases short <;> simp [field]
    | cons item items => cases decodes : decode item <;> simp [field,decodes]
  | null | bool _ | num _ | str _ | unkeyed _ | broken => simp [Yields,Draft.given,Draft.ungiven]

private theorem strayFault_eq_value (names : List String) (members : List (String × Draft))
    (place : ℕ) : strayFault names place members = .value () ↔
      ∀ m ∈ members, m.2.Keyed ∧ (m.1 ∈ names ∨ m.2.isWhole = true) := by
  induction members generalizing place with
  | nil => simp [strayFault]
  | cons m members ih =>
    rw [strayFault,List.forall_mem_cons]
    by_cases keyed : m.2.Keyed
    · rw [Draft.key_eq keyed]
      by_cases known : m.1 ∈ names
      · simp [known,keyed,ih]
      · cases whole : m.2.isWhole <;> simp [known,keyed,whole,Tree.skip,ih]
    · obtain ⟨key,draft⟩ := m
      obtain ⟨value,rfl⟩ : ∃ value, draft = .unkeyed value := by simpa [Draft.Keyed] using keyed
      have unread : Tree.key (key,Draft.unkeyed value) = .error .malformed := rfl
      rw [unread]
      simp [keyed]

private theorem readMembers_draft {fields : Fields Draft α} {members : List (String × Draft)}
    {value : α} : fields.readMembers members = .ok value ↔
      fields.ofMembers members = .value value ∧ strayFault fields.names 0 members = .value () := by
  rw [readMembers]
  cases fields.ofMembers members <;> cases strayFault fields.names 0 members <;>
    simp [Outcome.map,Outcome.both,Outcome.toExcept]
  split_ifs <;> simp

private theorem readItems_draft {fields : Fields Draft α} (orderly : fields.Orderly)
    {what : String} {surplus : ℕ → String} {items : List Draft} {value : α} :
    fields.readItems what surplus items = .ok value ↔
      items.length ≤ fields.names.length ∧ ∃ rest, fields.ofItems 0 items = .ok (value,rest) := by
  rw [readItems,← List.drop_eq_nil_iff]
  cases taken : fields.ofItems 0 items with
  | error e => cases e <;> simp
  | ok read =>
    obtain ⟨x,rest⟩ := read
    rw [← orderly _ _ _ _ taken]
    cases rest <;> simp

/-- A record is read where its fields give a value and nothing but them is in the way. -/
theorem record_eq_ok {fields : Fields Draft α} (orderly : fields.Orderly) {type : String}
    {value : α} : Decode.record type fields draft = .ok value ↔
      draft.Closed fields.names ∧ fields.Yields 0 draft value := by
  cases draft with
  | obj members =>
    change fields.readMembers members = .ok value ↔ _
    rw [readMembers_draft,strayFault_eq_value,and_comm]
    rfl
  | arr items =>
    change fields.readItems ("struct " ++ type) (fun _ => "fewer elements in array") items = _ ↔ _
    rw [readItems_draft orderly]
    rfl
  | num n => cases n <;> exact ⟨nofun,fun read => read.1.elim⟩
  | str s => cases s <;> exact ⟨nofun,fun read => read.1.elim⟩
  | null | bool _ | unkeyed _ | broken => exact ⟨nofun,fun read => read.1.elim⟩

end Fields

end ToolView
