import Mathlib
import ToolView.Proofs.View.Creation

/-! What of metadata is a wish, and what becomes of the rest. The wishes that are read from metadata
are written as the entries that they were read from; of the entries under keys of wishes only a size
that is no pair of texts is lost. A view that is created carries its wishes before all else that its
author put under the same keys. -/

namespace ToolView

theorem Decode.pair_eq_ok {json : Json} {size : String × String} :
    Decode.pair json = .ok size ↔ json = .arr [.str size.1,.str size.2] := by
  constructor
  · intro read
    match json with
    | .arr [a,b] =>
      cases a with
      | str width =>
        cases b with
        | str height => cases read; rfl
        | null | bool _ | num _ | arr _ | obj _ => cases read
      | null | bool _ | num _ | arr _ | obj _ => cases read
    | .arr [] | .null | .bool _ | .num _ | .str _ | .obj _ => cases read
    | .arr [a] => cases a <;> cases read
    | .arr (a :: b :: c :: more) => cases a <;> cases b <;> cases read
  · rintro rfl
    rfl

namespace Meta

theorem isEmpty_iff {m : Meta} : m.isEmpty ↔ ∀ key, m.get? key = none := by
  constructor
  · intro empty key
    rw [Dict.get?,List.isEmpty_iff.mp empty,Entries.get?_nil]
  · intro missing
    have same : m = .empty := Dict.ext_get? missing
    rw [same]
    rfl

theorem get?_nonempty? (m : Meta) (key : String) :
    m.nonempty?.bind (·.get? key) = m.get? key := by
  rw [nonempty?]
  split_ifs with empty
  · exact (isEmpty_iff.mp empty key).symm
  · rfl

theorem nonempty?_extendMissing {m other : Meta} :
    (m.extendMissing other).nonempty? = none ↔ m.isEmpty ∧ other.isEmpty := by
  have absent (m : Meta) : m.nonempty? = none ↔ m.isEmpty := by
    rw [nonempty?]
    split_ifs with empty <;> simp [empty]
  rw [absent,isEmpty_iff,isEmpty_iff,isEmpty_iff,← forall_and]
  simp only [get?_extendMissing,Option.or_eq_none_iff]

end Meta

namespace ViewMetadata

/-- An entry of metadata that is a wish: its key begins as those of wishes do, and under the key of
a size stand two texts. -/
def IsWish (key : String) (value : Json) : Prop :=
  ∃ name, key = keyStart ++ name ∧
    (name = frameSizeName → ∃ width height, value = .arr [.str width,.str height])

theorem isEmpty_toMeta (w : ViewMetadata) : w.toMeta.isEmpty ↔ w.isEmpty := by
  constructor
  · intro empty
    have missing (name : String) := Meta.isEmpty_iff.mp empty (keyStart ++ name)
    simp only [get?_toMeta,Option.or_eq_none_iff] at missing
    have extra : w.extra = .empty := Dict.ext_get? fun name => (missing name).1
    have data := (missing renderDataName).2.1
    have size := (missing frameSizeName).2.2
    rw [if_pos rfl] at data size
    rw [isEmpty,data,Option.map_eq_none_iff.mp size,extra]
    rfl
  · intro empty
    obtain ⟨size,data,extra⟩ := w
    simp only [isEmpty,Bool.and_eq_true,Option.isNone_iff_eq_none] at empty
    obtain ⟨⟨rfl,rfl⟩,empty⟩ := empty
    rw [toMeta,List.isEmpty_iff.mp empty]
    rfl

private theorem encodeSize_pair {json value : Json} :
    (Decode.pair json).toOption.map encodeSize = some value ↔
      json = value ∧ ∃ width height, value = .arr [.str width,.str height] := by
  constructor
  · intro written
    cases read : Decode.pair json with
    | error e => rw [read] at written; cases written
    | ok size =>
      rw [read] at written
      cases written
      exact ⟨Decode.pair_eq_ok.mp read,size.1,size.2,rfl⟩
  · rintro ⟨rfl,width,height,rfl⟩
    rfl

/-- What is written of the wishes in metadata is what the metadata said of them. -/
theorem get?_toMeta_ofMeta (m : Meta) (key : String) (value : Json) :
    (ofMeta m).toMeta.get? key = some value ↔ m.get? key = some value ∧ IsWish key value := by
  by_cases foreign : ∀ name, key ≠ keyStart ++ name
  · rw [get?_toMeta_foreign foreign]
    constructor
    · exact nofun
    · rintro ⟨-,name,same,-⟩
      exact absurd same (foreign name)
  obtain ⟨name,rfl⟩ : ∃ name, key = keyStart ++ name := by
    push Not at foreign
    exact foreign
  have wish : IsWish (keyStart ++ name) value ↔
      (name = frameSizeName → ∃ width height, value = .arr [.str width,.str height]) := by
    simp only [IsWish,String.append_right_inj,exists_eq_left']
  rw [wish,get?_toMeta,get?_extra_ofMeta,initialRenderData_ofMeta,preferredFrameSize_ofMeta]
  by_cases size : name = frameSizeName
  · subst size
    rw [if_pos (.inl rfl),if_neg (by decide),if_pos rfl,Option.none_or,Option.none_or,
      Option.map_bind,Option.bind_eq_some_iff]
    simp only [Function.comp_apply,encodeSize_pair,forall_const]
    constructor
    · rintro ⟨json,found,rfl,pair⟩
      exact ⟨found,pair⟩
    · rintro ⟨found,pair⟩
      exact ⟨value,found,rfl,pair⟩
  · rw [if_neg size,Option.or_none]
    by_cases data : name = renderDataName
    · subst data
      rw [if_pos (.inr rfl),if_pos rfl,Option.none_or]
      simp [size]
    · have plain : ¬ Reserved name := not_or.mpr ⟨size,data⟩
      rw [if_neg plain,if_neg data,Option.or_none]
      simp [size]

theorem ofMeta_toMeta {w : ViewMetadata} (free : ∀ e ∈ w.extra.entries, ¬ Reserved e.1) :
    ofMeta w.toMeta = w := by
  have kept : ofMeta (w.toMeta.extendMissing .empty) = w :=
    ofMeta_extendMissing free (List.forall_mem_nil _)
  exact kept

theorem free_ofMeta (m : Meta) : ∀ e ∈ (ofMeta m).extra.entries, ¬ Reserved e.1 := by
  intro e member reserved
  have found := (Entries.get?_eq_some_iff (ofMeta m).extra.ascending).mpr member
  have missing := get?_extra_ofMeta m e.1
  rw [if_pos reserved] at missing
  cases missing.symm.trans found

/-- Wishes and metadata. Wishes that are written as metadata are read as they were, unless an extra
one has the name of a field. Metadata whose wishes are read and written again is left with its
entries that are wishes, and they are read as before. The resource of a view that is created has
under each key the wish, where there is one, and else what its author put there; it has no metadata
exactly where there are neither wishes nor anything else. -/
theorem wishes_kept :
    (∀ w : ViewMetadata, (∀ e ∈ w.extra.entries, ¬ Reserved e.1) → ofMeta w.toMeta = w) ∧
    (∀ m : Meta, (∀ key value, (ofMeta m).toMeta.get? key = some value ↔
      m.get? key = some value ∧ IsWish key value) ∧ ofMeta (ofMeta m).toMeta = ofMeta m) ∧
    ∀ (n : NewView) (v : ViewResource), n.create = .ok v →
      (∀ key, v.resource.meta?.bind (·.get? key) =
        (n.wishes.toMeta.get? key).or (n.metadata.get? key)) ∧
      (v.resource.meta? = .none ↔ n.wishes.isEmpty ∧ n.metadata.isEmpty) := by
  refine ⟨fun w => ofMeta_toMeta,fun m => ⟨get?_toMeta_ofMeta m,?_⟩,fun n v created => ?_⟩
  · exact ofMeta_toMeta (free_ofMeta m)
  · obtain ⟨-,_,_,-,-,-,carries,-⟩ := NewView.create_eq_ok created
    rw [carries,NewView.resourceMeta]
    constructor
    · intro key
      rw [Meta.get?_nonempty?,Meta.get?_extendMissing]
    · rw [Meta.nonempty?_extendMissing,isEmpty_toMeta]

namespace Sample

def wishes : ViewMetadata :=
  ⟨some ("800px","600px"),some .null,.ofList [("",.bool true),("theme",.str "dark")]⟩

def mixed : Meta :=
  .ofList [(keyStart ++ frameSizeName,.arr [.str "800px"]),(keyStart ++ renderDataName,.null),
    (keyStart,.bool true),("theme",.str "dark")]

def view : NewView := ⟨"ui://sample/view",.html "<p>",.text,wishes,mixed,.none⟩

end Sample

theorem wishes_kept_sample :
    (∀ e ∈ Sample.wishes.extra.entries, ¬ Reserved e.1) ∧
    ofMeta Sample.wishes.toMeta = Sample.wishes ∧
    (ofMeta Sample.mixed).toMeta.get? keyStart = some (.bool true) ∧
    (∀ value, (ofMeta Sample.mixed).toMeta.get? (keyStart ++ frameSizeName) ≠ some value) ∧
    ∃ v, Sample.view.create = .ok v ∧
      v.resource.meta?.bind (·.get? (keyStart ++ frameSizeName)) =
        some (encodeSize ("800px","600px")) ∧
      v.resource.meta?.bind (·.get? "theme") = some (.str "dark") ∧ v.resource.meta? ≠ .none := by
  obtain ⟨back,restricted,created⟩ := wishes_kept
  have free : ∀ e ∈ Sample.wishes.extra.entries, ¬ Reserved e.1 := by decide +kernel
  obtain ⟨kept,-⟩ := restricted Sample.mixed
  have made : ∃ v, Sample.view.create = .ok v := ⟨_,rfl⟩
  obtain ⟨v,made⟩ := made
  obtain ⟨carried,absent⟩ := created Sample.view v made
  refine ⟨free,back _ free,?_,?_,v,made,?_,?_,?_⟩
  · have wish : IsWish keyStart (.bool true) := ⟨"",rfl,fun same => absurd same (by decide)⟩
    exact (kept keyStart (.bool true)).mpr ⟨by decide +kernel,wish⟩
  · intro value there
    obtain ⟨found,name,same,pair⟩ := (kept _ value).mp there
    obtain ⟨width,height,rfl⟩ := pair ((String.append_right_inj _).mp same).symm
    have other : Sample.mixed.get? (keyStart ++ frameSizeName) = some (.arr [.str "800px"]) := by
      decide +kernel
    cases other.symm.trans found
  · rw [carried]
    decide +kernel
  · rw [carried]
    decide +kernel
  · rw [Ne,absent]
    decide +kernel

end ViewMetadata

end ToolView
