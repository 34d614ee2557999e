import Mathlib
import ToolView.View.Resource
import ToolView.Proofs.Wire

/-! A view among the blocks of content. It is sent in a form of its own, the tag in its place and
its name beside the contents, and that form is the form of a block: whoever knows nothing of views
reads the contents from it, embedded, and whoever knows them reads the view. -/

namespace ToolView

theorem ViewProps.fields_read {o : Object} {p : ViewProps}
    (title : o.get? "title" = p.title.map .str)
    (description : o.get? "description" = p.description.map .str) : fields.Reads o p := by
  have reads (name : String) (text : Option String) (found : o.get? name = text.map .str) :
      (Fields.optional name Decode.string).Reads o text := by
    cases text with
    | none => exact .field_absent found _
    | some s => exact .field found (ReadsBack.string.optional s) _ _
  exact (Fields.Reads.map (reads _ _ title) mk).seq (reads _ _ description)

/-- An object that is tagged as a resource, with contents and no metadata of its own, is a block of
these contents, whatever else it holds. -/
theorem Content.decode_resource {o : Object} {c : Contents}
    (typed : o.get? "type" = some (.str "resource"))
    (bare : o.get? "_meta" = none) (held : o.get? "resource" = some c.encode) :
    Content.decode (.ofObject o) = .ok (.ofContents c) := by
  have apart : "type" ≠ "_meta" ∧ "type" ≠ "resource" := by decide
  have block : ResourceBlock.fields.Reads (o.erase "type") ⟨none,c⟩ := by
    refine (Fields.Reads.map ?_ ResourceBlock.mk).seq ?_
    · apply Fields.Reads.field_absent
      rw [Dict.get?_erase,if_neg apart.1,bare]
    · refine .field ?_ (Contents.readsBack.reads c) none none
      rw [Dict.get?_erase,if_neg apart.2,held]
  have tag : Entries.get? "type" o.entries = some (.str "resource") := typed
  change Decode.tagged _ _ (.obj o.entries) = _
  simp only [Decode.tagged,tag]
  change Content.resource <$> ResourceBlock.fields.readMembers (o.erase "type").entries = _
  rw [Fields.readMembers_eq_ok.mpr block]
  rfl

namespace ViewResource

def members (r : ViewResource) : List (String × Option Json) :=
  ("type",some (.str "resource")) :: ("resource",some r.resource.encode) :: r.props.members

theorem get?_members (r : ViewResource) (key : String) :
    (Json.members r.members).get? key = (Entries.get? key r.members).join := by
  apply Json.get?_members
  have distinct : ["type","resource","title","description"].Nodup := by decide
  exact distinct

theorem decode_encode (r : ViewResource) : decode r.encode = .ok r := by
  have named : Decode.name typeNames (Json.str "resource") = .ok () := rfl
  have tag : (Fields.required "type" (Decode.name typeNames)).Reads (Json.members r.members) () :=
    .field (r.get?_members "type") named none none
  have contents : fields.Reads (Json.members r.members) r.resource := by
    refine (tag.map _).seq ?_
    exact .field (r.get?_members "resource") (Contents.readsBack.reads _) none none
  have props : ViewProps.fields.Reads (Json.members r.members) r.props :=
    ViewProps.fields_read (r.get?_members "title") (r.get?_members "description")
  change (fields.readMembers (Json.members r.members).entries >>= fun resource =>
    ViewProps.fields.readMembers (Json.members r.members).entries >>= fun props =>
      .ok (⟨resource,props⟩ : ViewResource)) = _
  rw [Fields.readMembers_eq_ok.mpr contents,Fields.readMembers_eq_ok.mpr props]
  rfl

/-- A view and the block of its contents are sent alike, but for what the view is called. -/
theorem get?_encode (r : ViewResource) {key : String} (unnamed : key ∉ ["title","description"]) :
    r.encode.get? key = r.toContent.encode.get? key := by
  change (Json.members r.members).get? key = (Json.members r.toContent.whole).get? key
  rw [get?_members,Json.get?_members _ r.toContent.nodup_whole]
  simp only [List.mem_cons,List.not_mem_nil,or_false,not_or] at unnamed
  simp only [members,ViewProps.members,toContent,Content.whole,Content.ofContents,Content.tag,
    Content.members,ResourceBlock.members,Entries.get?_cons,Entries.get?_nil,Option.map_none]
  rw [if_neg (Ne.symm unnamed.1),if_neg (Ne.symm unnamed.2)]
  split_ifs with _ contents wishes
  · rfl
  · exact absurd (contents.trans wishes.symm) (by decide)
  · rfl
  · rfl
  · rfl

/-- A view is an embedded resource: its form reads as the block of its contents, which has no
metadata beside theirs, and as the view again, and but for the name of the view it is the form of
that block. -/
theorem embedded (r : ViewResource) :
    Content.decode r.encode = .ok r.toContent ∧
      r.toContent = .resource ⟨none,r.resource⟩ ∧
      decode r.encode = .ok r ∧
      ∀ key, key ∉ ["title","description"] → r.encode.get? key = r.toContent.encode.get? key := by
  refine ⟨?_,rfl,r.decode_encode,fun key unnamed => r.get?_encode unnamed⟩
  apply Content.decode_resource (r.get?_members "type") _ (r.get?_members "resource")
  exact r.get?_members "_meta"

end ViewResource

end ToolView
