import Mathlib
import ToolView.Server
import ToolView.Proofs.Codec
import ToolView.Proofs.View.Wishes

/-! What a view needs comes to the host in the metadata of its contents. A server writes there what
was registered for the view, unless the contents speak for themselves. -/

namespace ToolView

private theorem strings_readsBack :
    ReadsBack Json.strings (Decode.list Decode.string : Json → Except DecodeError (List String)) :=
  .list .string

theorem ViewSources.readsBack : ReadsBack encode decode := by
  have distinct : ["connectDomains","resourceDomains","frameDomains","baseUriDomains"].Nodup := by
    decide
  refine ReadsBack.record (fun s => ?_) "UiResourceCsp"
  refine (((Fields.Reads.map ?_ mk).seq ?_).seq ?_).seq ?_
  · exact .optional strings_readsBack distinct rfl
  · exact .optional strings_readsBack distinct rfl
  · exact .optional strings_readsBack distinct rfl
  · exact .optional strings_readsBack distinct rfl

theorem ViewPermissions.readsBack : ReadsBack encode decode := by
  have distinct : ["camera","microphone","geolocation","clipboardWrite"].Nodup := by decide
  refine ReadsBack.record (fun p => ?_) "UiPermissions"
  refine (((Fields.Reads.map ?_ mk).seq ?_).seq ?_).seq ?_
  · exact .optional .object distinct rfl
  · exact .optional .object distinct rfl
  · exact .optional .object distinct rfl
  · exact .optional .object distinct rfl

theorem ViewNeeds.readsBack : ReadsBack encode decode := by
  have distinct : ["csp","permissions","domain","prefersBorder"].Nodup := by decide
  refine ReadsBack.record (fun n => ?_) "UiResourceMeta"
  refine (((Fields.Reads.map ?_ mk).seq ?_).seq ?_).seq ?_
  · exact .optional ViewSources.readsBack distinct rfl
  · exact .optional ViewPermissions.readsBack distinct rfl
  · exact .optional .string distinct rfl
  · exact .optional .bool distinct rfl

/-- What contents say of the needs of their view, well-formed or not. -/
def Contents.statedNeeds? (c : Contents) : Option Json := c.meta?.bind (·.get? ViewLink.viewKey)

namespace ServedResource

private def completeMeta (x : ServedResource) (c : Contents) : Option Meta :=
  match x.needs with
  | none => c.meta?
  | some needs =>
    if c.statedNeeds?.isSome then c.meta? else some ((c.meta?.getD .empty).extendMissing needs.toMeta)

theorem complete_eq {x : ServedResource} {mimeType : String}
    (typed : x.listing.mimeType = some mimeType) (c : Contents) :
    x.complete c = ⟨c.uri,some (c.mimeType.getD mimeType),c.body,x.completeMeta c⟩ := by
  have stated : (c.meta?.getD .empty).contains ViewLink.viewKey = c.statedNeeds?.isSome := by
    cases meta? : c.meta? <;> simp [Contents.statedNeeds?,meta?,Dict.contains]
  rw [complete,typed,completeMeta]
  dsimp only [Contents.withDefaultMimeType]
  rw [stated]
  cases x.needs with
  | none => rfl
  | some needs =>
    dsimp only
    split_ifs <;> rfl

private theorem stated_completeMeta (x : ServedResource) (c : Contents) :
    (x.completeMeta c).bind (·.get? ViewLink.viewKey) =
      c.statedNeeds?.or (x.needs.map ViewNeeds.encode) := by
  have own : c.meta?.bind (·.get? ViewLink.viewKey) = c.statedNeeds? := rfl
  rw [completeMeta]
  cases x.needs with
  | none => exact own.trans Option.or_none.symm
  | some needs =>
    dsimp only
    split_ifs with spoken
    · obtain ⟨value,stated⟩ := Option.isSome_iff_exists.mp spoken
      rw [own,stated]
      rfl
    · have silent : c.statedNeeds? = none := Option.not_isSome_iff_eq_none.mp spoken
      have before : (c.meta?.getD .empty).get? ViewLink.viewKey = none := by
        cases meta? : c.meta? with
        | none => rfl
        | some m => rwa [Contents.statedNeeds?,meta?] at silent
      rw [Option.bind_some,Meta.get?_extendMissing,before,silent]
      rfl

/-- The host learns what the contents state, and what was registered where they state nothing. -/
theorem ofContents?_complete {x : ServedResource} {mimeType : String}
    (typed : x.listing.mimeType = some mimeType) (c : Contents) :
    ViewNeeds.ofContents? (x.complete c) =
      match c.statedNeeds? with
      | some value => (ViewNeeds.decode value).toOption
      | none => x.needs := by
  rw [complete_eq typed,ViewNeeds.ofContents?]
  change ((x.completeMeta c).bind _).bind _ = _
  rw [stated_completeMeta]
  cases c.statedNeeds? with
  | some value => rfl
  | none =>
    cases x.needs with
    | none => rfl
    | some needs =>
      change (ViewNeeds.decode needs.encode).toOption = _
      rw [ViewNeeds.readsBack.reads]
      rfl

end ServedResource

end ToolView
