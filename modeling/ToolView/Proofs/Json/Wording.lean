import Mathlib
import ToolView.Proofs.Json.Record

/-! Wordings of one text. The members of an object may stand in any order, and there may be members
that nobody asks for, so long as they are JSON. An outline says what is asked for, level by level;
what is read by it is read alike from every wording. -/

namespace ToolView

open Json (Draft)

/-- What is asked for in a text, level by level. -/
inductive Outline where
  | record (fields : List (String × Outline))
  | list (item : Outline)
  /-- One of these names: a text, or the key of an object that has no other member. -/
  | name (names : List String)

namespace Outline

/-- Nothing is asked for but the value. -/
def plain : Outline := .record []

def member : Outline → String → Outline
  | .record fields, key => (Entries.get? key fields).getD plain
  | _, _ => plain

def item : Outline → ℕ → Outline
  | .record fields, place => (fields[place]?.map (·.2)).getD plain
  | .list item, _ => item
  | .name _, _ => plain

/-- Nobody asks for a member of this name, and there is room for one among the others. An object
that spells a name has no room. -/
def Foreign : Outline → List (String × Draft) → String → Prop
  | .record fields, _, key => key ∉ fields.map (·.1)
  | .list _, _, _ => True
  | .name names, members, key => key ∉ names ∧ ∀ name ∈ names, members ≠ [(name,.null)]

end Outline

namespace Json.Draft

/-- One draft is another with the members of an object in another order, or with one more that
nobody asks for, under a key that can be read and with a value that is JSON; the object may be any
one inside them. -/
inductive Edit : Outline → Draft → Draft → Prop
  | order {outline members others} (perm : members.Perm others) :
      Edit outline (.obj members) (.obj others)
  | extra {outline key value members} (foreign : outline.Foreign members key)
      (whole : value.isWhole = true) (keyed : value.Keyed) :
      Edit outline (.obj members) (.obj ((key,value) :: members))
  | member {outline key value other members} (inside : Edit (outline.member key) value other) :
      Edit outline (.obj ((key,value) :: members)) (.obj ((key,other) :: members))
  | item {outline before value other after} (inside : Edit (outline.item before.length) value other) :
      Edit outline (.arr (before ++ value :: after)) (.arr (before ++ other :: after))
  | unkeyed {outline value other} (inside : Edit outline value other) :
      Edit outline (.unkeyed value) (.unkeyed other)

/-- The two hold values in the same way. -/
inductive Paired : Draft → Draft → Prop
  | obj (members others) : Paired (.obj members) (.obj others)
  | arr (items others) : Paired (.arr items) (.arr others)
  | unkeyed (value other) : Paired (.unkeyed value) (.unkeyed other)

theorem Paired.keyed_iff {draft other : Draft} (paired : draft.Paired other) :
    draft.Keyed ↔ other.Keyed := by
  cases paired <;> simp [Keyed]

theorem Paired.ungiven_eq {α : Type} {draft other : Draft} (paired : draft.Paired other)
    (absent short : Option α) : draft.ungiven absent short = other.ungiven absent short := by
  cases paired <;> rfl

private theorem allWhole_append (items others : List Draft) :
    allWhole (items ++ others) = (allWhole items && allWhole others) := by
  induction items with
  | nil => rfl
  | cons item items ih => rw [List.cons_append,allWhole,allWhole,ih,Bool.and_assoc]

private theorem membersWhole_eq_all (members : List (String × Draft)) :
    membersWhole members = members.all (·.2.isWhole) := by
  induction members with
  | nil => rfl
  | cons m members ih => rw [List.all_cons,← ih]; rfl

namespace Edit

variable {outline : Outline} {draft other : Draft}

theorem paired (edit : draft.Edit outline other) : draft.Paired other := by
  cases edit <;> constructor

theorem isWhole_eq (edit : draft.Edit outline other) : draft.isWhole = other.isWhole := by
  induction edit with
  | order perm =>
    rw [isWhole,isWhole,membersWhole_eq_all,membersWhole_eq_all]
    exact perm.all_eq
  | extra _ whole _ => simp [isWhole,membersWhole,whole]
  | member _ ih => simp [isWhole,membersWhole,ih]
  | item _ ih => simp [isWhole,allWhole_append,allWhole,ih]
  | unkeyed _ ih => exact ih

end Edit

/-- What a field is given is the same, or one wording for another, or too much. -/
inductive Alike (outline : Outline) : List Draft → List Draft → Prop
  | same (parts) : Alike outline parts parts
  | several {parts others} (more : 1 < parts.length) (moreOthers : 1 < others.length) :
      Alike outline parts others
  | reworded {part other} (edit : part.Edit outline other) : Alike outline [part] [other]

theorem Alike.of_perm {outline : Outline} {parts others : List Draft} (perm : parts.Perm others) :
    Alike outline parts others := by
  match parts with
  | [] => rw [← perm.nil_eq]; exact .same []
  | [part] => rw [List.perm_singleton.mp perm.symm]; exact .same [part]
  | first :: second :: rest =>
    have more : 1 < (first :: second :: rest).length := by simp
    exact .several more (perm.length_eq ▸ more)

/-- What stands under the name of a field of a record, or in its place, only changes its wording. -/
theorem Edit.given_alike {fields : List (String × Outline)} {draft other : Draft}
    (distinct : (fields.map (·.1)).Nodup) (edit : draft.Edit (.record fields) other) {place : ℕ}
    {field : String × Outline} (there : fields[place]? = some field) :
    Alike field.2 (draft.given place field.1) (other.given place field.1) := by
  have known : field.1 ∈ fields.map (·.1) := List.mem_map_of_mem (List.mem_of_getElem? there)
  cases edit with
  | order perm => exact .of_perm ((perm.filter _).map _)
  | @extra _ key value members foreign _ _ =>
    have apart : key ≠ field.1 := fun same => foreign (same ▸ known)
    rw [given,given,held_cons,if_neg apart]
    exact .same _
  | @member _ key value value' members inside =>
    rw [given,given,held_cons,held_cons]
    split_ifs with here
    · cases rest : held field.1 members with
      | nil =>
        refine .reworded ?_
        have outlined : (Outline.record fields).member key = field.2 := by
          have found := Entries.get?_of_mem distinct (List.mem_of_getElem? there)
          rw [← here] at found
          exact congrArg (·.getD Outline.plain) found
        exact outlined ▸ inside
      | cons part parts => exact .several (by simp) (by simp)
    · exact .same _
  | @item _ before value value' after inside =>
    change Alike field.2 (before ++ value :: after)[place]?.toList
      (before ++ value' :: after)[place]?.toList
    -- The field stands before the item that is reworded, or is it, or stands after it.
    rcases lt_trichotomy place before.length with early | here | late
    · rw [List.getElem?_append_left early,List.getElem?_append_left early]
      exact .same _
    · subst here
      have outlined : (Outline.record fields).item before.length = field.2 := by
        simp [Outline.item,there]
      rw [List.getElem?_append_right le_rfl,List.getElem?_append_right le_rfl,Nat.sub_self]
      exact .reworded (outlined ▸ inside)
    · rw [List.getElem?_append_right late.le,List.getElem?_append_right late.le]
      obtain ⟨more,same⟩ := Nat.exists_eq_add_of_lt late
      have beyond : place - before.length = more + 1 := by omega
      rw [beyond,List.getElem?_cons_succ,List.getElem?_cons_succ]
      exact .same _
  | unkeyed _ => exact .same []

theorem Edit.closed_iff {fields : List (String × Outline)} {draft other : Draft}
    (edit : draft.Edit (.record fields) other) :
    draft.Closed (fields.map (·.1)) ↔ other.Closed (fields.map (·.1)) := by
  cases edit with
  | order perm => simp only [Closed,perm.mem_iff]
  | extra foreign whole keyed =>
    rw [Closed,Closed,List.forall_mem_cons]
    exact (and_iff_right ⟨keyed,.inr whole⟩).symm
  | member inside =>
    rw [Closed,Closed,List.forall_mem_cons,List.forall_mem_cons]
    simp only [inside.paired.keyed_iff,inside.isWhole_eq]
  | item inside => simp [Closed]
  | unkeyed _ => exact Iff.rfl

end Json.Draft

/-- What is read by the outline is read alike from every wording. -/
def Outline.Suits {α : Type} (outline : Outline) (decode : Draft → Except DecodeError α) : Prop :=
  ∀ draft other, draft.Edit outline other →
    ∀ value, decode draft = .ok value ↔ decode other = .ok value

namespace Outline.Suits

variable {α : Type} {outline : Outline} {decode : Draft → Except DecodeError α}

/-- Where a text is asked for, there is nothing to reword. -/
theorem string (outline : Outline) : outline.Suits (Decode.string : Draft → _) := by
  intro draft other edit value
  cases edit.paired <;> exact ⟨nofun,nofun⟩

theorem optional (suits : outline.Suits decode) : outline.Suits (Decode.optional decode) := by
  intro draft other edit value
  have lifted : (decode draft).map some = .ok value ↔ (decode other).map some = .ok value := by
    rw [map_eq_ok,map_eq_ok]
    simp only [suits draft other edit]
  cases edit.paired with
  | obj | arr => exact lifted
  | unkeyed => exact ⟨nofun,nofun⟩

theorem list (suits : outline.Suits decode) : (Outline.list outline).Suits (Decode.list decode) := by
  intro draft other edit values
  cases edit with
  | order | extra | member | unkeyed => exact ⟨nofun,nofun⟩
  | @item _ before part part' after inside =>
    change (before ++ part :: after).mapM decode = .ok values ↔
      (before ++ part' :: after).mapM decode = .ok values
    have same := suits part part' inside
    rw [mapM_eq_ok,mapM_eq_ok]
    clear inside
    induction before generalizing values with
    | nil =>
      rw [List.nil_append,List.nil_append,List.forall₂_cons_left_iff,List.forall₂_cons_left_iff]
      simp only [same]
    | cons first before ih =>
      rw [List.cons_append,List.cons_append,List.forall₂_cons_left_iff,List.forall₂_cons_left_iff]
      simp only [ih]

private theorem unit_eq_ok {draft : Draft} : Decode.unit draft = .ok () ↔ draft = .null := by
  cases draft with
  | null => exact ⟨fun _ => rfl,fun _ => rfl⟩
  | num n => cases n <;> exact ⟨nofun,nofun⟩
  | str s => cases s <;> exact ⟨nofun,nofun⟩
  | bool _ | arr _ | obj _ | unkeyed _ | broken => exact ⟨nofun,nofun⟩

/-- An object spells a name where the name is the key of its only member, and stands for nothing. -/
private theorem name_obj {names : List (String × α)} {members : List (String × Draft)} {value : α} :
    Decode.name names (Draft.obj members) = .ok value ↔
      ∃ name, members = [(name,.null)] ∧ Decode.named names name = .ok value := by
  match members with
  | [] => exact ⟨nofun,nofun⟩
  | (key,draft) :: others =>
    have read : Decode.name names (Draft.obj ((key,draft) :: others)) =
        Tree.key (key,draft) >>= fun name => Decode.named names name >>= fun value =>
          Decode.unit draft >>= fun () => if others.isEmpty then .ok value else .error .malformed := by
      cases draft <;> rfl
    rw [read]
    constructor
    · intro spelled
      obtain ⟨name,keyed,later⟩ := ok_of_bind spelled
      obtain ⟨given,named,later⟩ := ok_of_bind later
      obtain ⟨_,silent,alone⟩ := ok_of_bind later
      have null : draft = .null := unit_eq_ok.mp silent
      subst null
      have same : key = name := Except.ok.inj keyed
      subst same
      split_ifs at alone with none
      cases alone
      exact ⟨key,by rw [List.isEmpty_iff.mp none],named⟩
    · rintro ⟨name,same,named⟩
      cases same
      change (Decode.named names key >>= fun value => .ok value) = _
      rw [named]
      rfl

private theorem mem_of_named {names : List (String × α)} {name : String} {value : α}
    (named : Decode.named names name = .ok value) : name ∈ names.map (·.1) := by
  rw [Decode.named] at named
  split at named
  next found =>
    obtain ⟨before,after,rfl,-⟩ := List.lookup_eq_some_iff.mp found
    simp
  next => cases named

theorem name (names : List (String × α)) :
    (Outline.name (names.map (·.1))).Suits (Decode.name names : Draft → _) := by
  intro draft other edit value
  cases edit with
  | @order _ members others perm =>
    have single (m : String × Draft) : members = [m] ↔ others = [m] := by
      rw [← List.perm_singleton,← List.perm_singleton,perm.congr_left]
    rw [name_obj,name_obj]
    simp only [single]
  | extra foreign =>
    obtain ⟨unknown,room⟩ := foreign
    rw [name_obj,name_obj]
    constructor
    · rintro ⟨name,same,named⟩
      exact absurd same (room name (mem_of_named named))
    · rintro ⟨name,same,named⟩
      cases same
      exact absurd (mem_of_named named) unknown
  | @member _ key part part' members inside =>
    rw [name_obj,name_obj]
    cases inside.paired <;> exact ⟨nofun,nofun⟩
  | item | unkeyed => exact ⟨nofun,nofun⟩

end Outline.Suits

/-- The outlines are those of the fields, in order, and each field is read alike from every wording
of what it is given. -/
structure Fields.Suits {α : Type} (fields : Fields Draft α) (outlines : List (String × Outline)) :
    Prop where
  names : fields.names = outlines.map (·.1)
  orderly : fields.Orderly
  yields_iff : ∀ {place : ℕ} {draft other : Draft}, draft.Paired other →
    (∀ {i : ℕ} {field : String × Outline}, outlines[i]? = some field →
      Draft.Alike field.2 (draft.given (place + i) field.1) (other.given (place + i) field.1)) →
    ∀ value, fields.Yields place draft value ↔ fields.Yields place other value

namespace Fields.Suits

variable {α β : Type} {outlines others : List (String × Outline)}

theorem map {fields : Fields Draft α} (suits : fields.Suits outlines) (f : α → β) :
    (f <$> fields).Suits outlines where
  names := suits.names
  orderly := suits.orderly.map f
  yields_iff paired alike value := by
    rw [yields_map,yields_map]
    simp only [suits.yields_iff paired alike]

theorem seq {function : Fields Draft (α → β)} {fields : Fields Draft α}
    (first : function.Suits outlines) (second : fields.Suits others) :
    (function <*> fields).Suits (outlines ++ others) where
  names := by
    rw [List.map_append,← first.names,← second.names]
    rfl
  orderly := first.orderly.seq second.orderly
  yields_iff {place draft other} paired alike value := by
    have front {i : ℕ} {field : String × Outline} (there : outlines[i]? = some field) :
        (outlines ++ others)[i]? = some field := by
      obtain ⟨early,-⟩ := List.getElem?_eq_some_iff.mp there
      rw [List.getElem?_append_left early,there]
    have back {i : ℕ} {field : String × Outline} (there : others[i]? = some field) :
        (outlines ++ others)[function.names.length + i]? = some field := by
      rw [first.names,List.length_map,List.getElem?_append_right (Nat.le_add_right _ _),
        Nat.add_sub_cancel_left,there]
    rw [yields_seq first.orderly,yields_seq first.orderly]
    have left := first.yields_iff paired fun there => alike (front there)
    have right (value : α) : fields.Yields (place + function.names.length) draft value ↔
        fields.Yields (place + function.names.length) other value := by
      refine second.yields_iff paired (fun there => ?_) value
      rw [Nat.add_assoc]
      exact alike (back there)
    simp only [left,right]

theorem field {name : String} {outline : Outline} {decode : Draft → Except DecodeError α}
    (suits : outline.Suits decode) (absent short : Option α) :
    (Fields.field name decode absent short).Suits [(name,outline)] where
  names := rfl
  orderly := .field
  yields_iff {place draft other} paired alike value := by
    have parts : Draft.Alike outline (draft.given place name) (other.given place name) :=
      @alike 0 (name,outline) rfl
    rw [yields_field,yields_field,paired.ungiven_eq]
    generalize draft.given place name = given at parts
    generalize other.given place name = given' at parts
    cases parts with
    | same => rfl
    | several more moreOthers =>
      -- A field that is given twice is refused in either wording.
      have none (parts : List Draft) (more : 1 < parts.length) :
          parts ≠ [] ∧ ∀ part, parts ≠ [part] := by
        constructor
        · rintro rfl; cases more
        · rintro part rfl; simp at more
      simp [none _ more,none _ moreOthers]
    | reworded edit => simp [suits _ _ edit]

end Fields.Suits

/-- A record is read alike from every wording if its fields are. -/
theorem Outline.Suits.record {α : Type} {fields : Fields Draft α}
    {outlines : List (String × Outline)} (distinct : (outlines.map (·.1)).Nodup)
    (suits : fields.Suits outlines) (type : String) :
    (Outline.record outlines).Suits (Decode.record type fields) := by
  intro draft other edit value
  rw [Fields.record_eq_ok suits.orderly,Fields.record_eq_ok suits.orderly,suits.names,
    edit.closed_iff]
  have yields : fields.Yields 0 draft value ↔ fields.Yields 0 other value := by
    refine suits.yields_iff edit.paired (fun there => ?_) value
    rw [Nat.zero_add]
    exact edit.given_alike distinct there
  rw [yields]

/-- Two drafts word one content: one comes from the other by edits, made or taken back. -/
def Json.Draft.Rewords (outline : Outline) : Draft → Draft → Prop :=
  Relation.EqvGen (Draft.Edit outline)

theorem Outline.Suits.rewords {α : Type} {outline : Outline} {decode : Draft → Except DecodeError α}
    (suits : outline.Suits decode) {draft other : Draft} (rewords : draft.Rewords outline other)
    (value : α) : decode draft = .ok value ↔ decode other = .ok value := by
  induction rewords with
  | rel draft other edit => exact suits draft other edit value
  | refl draft => rfl
  | symm draft other _ ih => exact ih.symm
  | trans draft middle other _ _ first second => exact first.trans second

/-- Two texts word one content, and both are that content alone or both go on after it. -/
def Json.Reworded (outline : Outline) (text other : String) : Prop :=
  (Draft.read text.toList).1.Rewords outline (Draft.read other.toList).1 ∧
    (Draft.read text.toList).2 = (Draft.read other.toList).2

theorem Json.reworded_write {outline : Outline} {json other : Json}
    (rewords : json.draft.Rewords outline other.draft) :
    Json.Reworded outline json.write other.write := by
  rw [Json.Reworded,Json.write,Json.write,String.toList_ofList,String.toList_ofList,
    Draft.read_writeChars,Draft.read_writeChars]
  exact ⟨rewords,rfl⟩

end ToolView
