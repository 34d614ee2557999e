import Mathlib
import ToolView.Proofs.Members
import ToolView.View.Metadata

/-! The wishes of a view stand in the metadata of its resource among the entries of everyone else,
and are read from there as they were. Each field of what is read is one look-up, under a key that
begins as all keys of wishes do. -/

namespace ToolView

theorem Text.dropStart?_eq_some {start text rest : String} :
    Text.dropStart? start text = some rest ↔ text = start ++ rest := by
  rw [Text.dropStart?,Option.map_eq_some_iff]
  constructor
  · rintro ⟨cs,found,rfl⟩
    have parts := List.isPrefixOf?_eq_some_iff_append_eq.mp found
    apply String.toList_injective
    rw [String.toList_append,String.toList_ofList,parts]
  · rintro rfl
    refine ⟨rest.toList,?_,String.ofList_toList⟩
    rw [List.isPrefixOf?_eq_some_iff_append_eq,String.toList_append]

theorem Text.startsWith_append (start rest : String) :
    Text.startsWith start (start ++ rest) = true := by
  rw [Text.startsWith,String.toList_append,List.isPrefixOf_iff_prefix]
  exact List.prefix_append _ _

theorem Meta.get?_extendMissing (m other : Meta) (key : String) :
    (m.extendMissing other).get? key = (m.get? key).or (other.get? key) := by
  have fold (es : List (String × Json)) (m : Meta) :
      (es.foldl (fun (m : Meta) e => if m.contains e.1 then m else m.insert e.1 e.2) m).get? key =
        (m.get? key).or (Entries.get? key es) := by
    induction es generalizing m with
    | nil => exact Option.or_none.symm
    | cons e es ih =>
      rw [List.foldl_cons,ih,Entries.get?_cons]
      by_cases here : e.1 = key
      · subst here
        rw [if_pos rfl,Dict.contains]
        cases taken : m.get? e.1 with
        | none => rw [Option.isSome_none,if_neg Bool.false_ne_true,Dict.get?_insert,if_pos rfl]; rfl
        | some value => rw [Option.isSome_some,if_pos rfl,taken]; rfl
      · rw [if_neg here]
        split_ifs with taken
        · rfl
        · rw [Dict.get?_insert,if_neg here]
  exact fold other.entries m

namespace ViewMetadata

/-- Whether a wish of this name has a field of its own. -/
def Reserved (name : String) : Prop := name = frameSizeName ∨ name = renderDataName

instance (name : String) : Decidable (Reserved name) := inferInstanceAs (Decidable (_ ∨ _))

private theorem ext_fields {v w : ViewMetadata}
    (size : v.preferredFrameSize = w.preferredFrameSize)
    (data : v.initialRenderData = w.initialRenderData) (extra : v.extra = w.extra) : v = w := by
  cases v
  cases w
  cases size
  cases data
  cases extra
  rfl

private theorem start_append_inj {a b : String} : keyStart ++ a = keyStart ++ b ↔ a = b :=
  String.append_right_inj _

private theorem addEntry_wish (w : ViewMetadata) (name : String) (value : Json) :
    w.addEntry (keyStart ++ name) value =
      if name = frameSizeName then
        { w with preferredFrameSize := (Decode.pair value).toOption.or w.preferredFrameSize }
      else if name = renderDataName then { w with initialRenderData := some value }
      else w.withEntry name value := by
  have found : Text.dropStart? keyStart (keyStart ++ name) = some name :=
    Text.dropStart?_eq_some.mpr rfl
  simp only [addEntry,found]
  split_ifs
  · cases Decode.pair value <;> rfl
  · rfl
  · rfl

/-- A field that one wish decides is a look-up of its key among all entries. -/
private theorem foldl_addEntry {α : Type} (field : ViewMetadata → Option α) (name : String)
    (read : Json → Option α)
    (step : ∀ w name' value, field (w.addEntry (keyStart ++ name') value) =
      (if name' = name then read value else .none).or (field w))
    (es : List (String × Json)) (distinct : (es.map (·.1)).Nodup) (w : ViewMetadata) :
    field (es.foldl (fun w e => w.addEntry e.1 e.2) w) =
      ((Entries.get? (keyStart ++ name) es).bind read).or (field w) := by
  induction es generalizing w with
  | nil => rfl
  | cons e es ih =>
    obtain ⟨apart,rest⟩ := List.nodup_cons.mp distinct
    obtain ⟨key,value⟩ := e
    rw [List.foldl_cons,ih rest,Entries.get?_cons]
    by_cases here : key = keyStart ++ name
    · subst here
      rw [Entries.get?_eq_none_of_notMem apart,step,if_pos rfl,if_pos rfl]
      rfl
    · rw [if_neg here]
      congr 1
      cases start : Text.dropStart? keyStart key with
      | none => rw [addEntry,start]
      | some name' =>
        have same : key = keyStart ++ name' := Text.dropStart?_eq_some.mp start
        subst same
        rw [step,if_neg fun same => here (congrArg _ same)]
        rfl

theorem preferredFrameSize_ofMeta (m : Meta) : (ofMeta m).preferredFrameSize =
    (m.get? (keyStart ++ frameSizeName)).bind fun value => (Decode.pair value).toOption := by
  refine (foldl_addEntry (·.preferredFrameSize) frameSizeName _ (fun w name value => ?_) m.entries
    m.nodup_keys none).trans Option.or_none
  rw [addEntry_wish]
  split_ifs <;> rfl

theorem initialRenderData_ofMeta (m : Meta) :
    (ofMeta m).initialRenderData = m.get? (keyStart ++ renderDataName) := by
  refine (foldl_addEntry (·.initialRenderData) renderDataName some (fun w name value => ?_) m.entries
    m.nodup_keys none).trans (Option.or_none.trans (Option.bind_fun_some _))
  rw [addEntry_wish]
  split_ifs with size data data
  · exact absurd (size.symm.trans data) (by decide)
  · rfl
  · rfl
  · rfl

private theorem extra_addEntry (w : ViewMetadata) (name : String) (value : Json) :
    (w.addEntry (keyStart ++ name) value).extra =
      if Reserved name then w.extra else w.extra.insert name value := by
  rw [addEntry_wish]
  by_cases size : name = frameSizeName
  · rw [if_pos size,if_pos (.inl size)]
  by_cases data : name = renderDataName
  · rw [if_neg size,if_pos data,if_pos (.inr data)]
  · have plain : ¬ Reserved name := not_or.mpr ⟨size,data⟩
    rw [if_neg size,if_neg data,if_neg plain]
    rfl

theorem get?_extra_ofMeta (m : Meta) (name : String) : (ofMeta m).extra.get? name =
    if Reserved name then .none else m.get? (keyStart ++ name) := by
  have look := foldl_addEntry (·.extra.get? name) name
    (fun value => if Reserved name then .none else some value) (fun w name' value => ?_) m.entries
    m.nodup_keys none
  · refine look.trans (Option.or_none.trans ?_)
    split_ifs with reserved
    · exact Option.bind_fun_none _
    · exact Option.bind_fun_some _
  · rw [extra_addEntry]
    by_cases here : name' = name
    · subst here
      rw [if_pos rfl]
      split_ifs
      · rfl
      · rw [Dict.get?_insert,if_pos rfl]
        rfl
    · rw [if_neg here]
      split_ifs
      · rfl
      · rw [Dict.get?_insert,if_neg here]
        rfl

private theorem get?_map_start (es : List (String × Json)) (name : String) :
    Entries.get? (keyStart ++ name) (es.map fun e => (keyStart ++ e.1,e.2)) =
      Entries.get? name es := by
  induction es with
  | nil => rfl
  | cons e es ih =>
    simp only [List.map_cons,Entries.get?_cons,ih,start_append_inj]

private theorem get?_insert_wish (m : Meta) (wish key : String) (value : Json) :
    (m.insert wish value).get? key = (if key = wish then some value else .none).or (m.get? key) := by
  rw [Dict.get?_insert]
  by_cases here : key = wish
  · rw [if_pos here.symm,if_pos here]
    rfl
  · rw [if_neg (Ne.symm here),if_neg here]
    rfl

private theorem get?_toMeta_eq (w : ViewMetadata) (key : String) : w.toMeta.get? key =
    (Entries.get? key (w.extra.entries.map fun e => (keyStart ++ e.1,e.2))).or
      ((if key = keyStart ++ renderDataName then w.initialRenderData else .none).or
        (if key = keyStart ++ frameSizeName then w.preferredFrameSize.map encodeSize else .none)) := by
  have distinct : ((w.extra.entries.map fun e => (keyStart ++ e.1,e.2)).map (·.1)).Nodup := by
    have keys := w.extra.nodup_keys.map fun a b => start_append_inj.mp
    rwa [List.map_map] at keys ⊢
  have extra := Dict.get?_foldl_insert _ distinct
  simp only [List.foldl_map] at extra
  rw [toMeta,extra]
  cases w.initialRenderData <;> cases w.preferredFrameSize <;>
    simp only [get?_insert_wish,Dict.get?_empty,Option.or_none,Option.none_or,Option.map_none,
      Option.map_some,ite_self]

/-- Under the key of a wish stands the wish: an extra one before any that has a field. -/
theorem get?_toMeta (w : ViewMetadata) (name : String) : w.toMeta.get? (keyStart ++ name) =
    (w.extra.get? name).or ((if name = renderDataName then w.initialRenderData else .none).or
      (if name = frameSizeName then w.preferredFrameSize.map encodeSize else .none)) := by
  simp only [get?_toMeta_eq,get?_map_start,start_append_inj]
  rfl

/-- Under other keys stands nothing. -/
theorem get?_toMeta_foreign {key : String} (foreign : ∀ name, key ≠ keyStart ++ name)
    (w : ViewMetadata) : w.toMeta.get? key = .none := by
  have apart : key ∉ (w.extra.entries.map fun e => (keyStart ++ e.1,e.2)).map (·.1) := by
    rw [List.map_map,List.mem_map]
    rintro ⟨e,-,same⟩
    exact foreign e.1 same.symm
  rw [get?_toMeta_eq,Entries.get?_eq_none_of_notMem apart,if_neg (foreign _),if_neg (foreign _)]
  rfl

/-- Wishes come back from metadata that holds them, whatever else it holds. -/
theorem ofMeta_extendMissing {w : ViewMetadata} {other : Meta}
    (free : ∀ e ∈ w.extra.entries, ¬ Reserved e.1)
    (apart : ∀ e ∈ other.entries, Text.startsWith keyStart e.1 = false) :
    ofMeta (w.toMeta.extendMissing other) = w := by
  have extra (name : String) (reserved : Reserved name) : w.extra.get? name = .none := by
    refine Entries.get?_eq_none_of_notMem fun member => ?_
    obtain ⟨e,inside,rfl⟩ := List.mem_map.mp member
    exact free e inside reserved
  have apart (name : String) : other.get? (keyStart ++ name) = .none := by
    refine Entries.get?_eq_none_of_notMem fun member => ?_
    obtain ⟨e,inside,same⟩ := List.mem_map.mp member
    have starts := apart e inside
    rw [same,Text.startsWith_append] at starts
    cases starts
  have found (name : String) : (w.toMeta.extendMissing other).get? (keyStart ++ name) =
      w.toMeta.get? (keyStart ++ name) := by
    rw [Meta.get?_extendMissing,apart,Option.or_none]
  have size : (ofMeta (w.toMeta.extendMissing other)).preferredFrameSize =
      w.preferredFrameSize := by
    rw [preferredFrameSize_ofMeta,found,get?_toMeta,extra _ (.inl rfl),if_neg (by decide),
      if_pos rfl]
    cases w.preferredFrameSize <;> rfl
  have data : (ofMeta (w.toMeta.extendMissing other)).initialRenderData =
      w.initialRenderData := by
    rw [initialRenderData_ofMeta,found,get?_toMeta,extra _ (.inr rfl),if_pos rfl,
      if_neg (by decide),Option.or_none]
    rfl
  have rest : (ofMeta (w.toMeta.extendMissing other)).extra = w.extra := by
    apply Dict.ext_get?
    intro name
    rw [get?_extra_ofMeta,found,get?_toMeta]
    by_cases reserved : Reserved name
    · rw [if_pos reserved,extra name reserved]
    · obtain ⟨size,data⟩ := not_or.mp reserved
      rw [if_neg reserved,if_neg data,if_neg size,Option.or_none,Option.or_none]
  exact ext_fields size data rest

end ViewMetadata

end ToolView
