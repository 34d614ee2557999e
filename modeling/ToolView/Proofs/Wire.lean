import Mathlib
import ToolView.Protocol.Tool
import ToolView.Proofs.Codec

/-! What a server and its client send each other about tools and resources reads back as it was sent.
The result of a tool is the one exception: structured content that is `null` reads as none. -/

namespace ToolView

namespace ToolAnnotations

theorem readsBack : ReadsBack encode decode := by
  have distinct : ["title","readOnlyHint","destructiveHint","idempotentHint",
    "openWorldHint"].Nodup := by decide
  refine ReadsBack.record (fun a => ?_) "ToolAnnotations"
  refine ((((Fields.Reads.map ?_ mk).seq ?_).seq ?_).seq ?_).seq ?_
  · exact .optional .string distinct rfl
  · exact .optional .bool distinct rfl
  · exact .optional .bool distinct rfl
  · exact .optional .bool distinct rfl
  · exact .optional .bool distinct rfl

end ToolAnnotations

namespace Tool

theorem readsBack : ReadsBack encode decode := by
  have distinct : ["name","title","description","inputSchema","outputSchema","annotations",
    "_meta"].Nodup := by decide
  refine ReadsBack.record (fun t => ?_) "Tool"
  refine ((((((Fields.Reads.map ?_ mk).seq ?_).seq ?_).seq ?_).seq ?_).seq ?_).seq ?_
  · exact .present .string distinct rfl
  · exact .optional .string distinct rfl
  · exact .optional .string distinct rfl
  · exact .present .object distinct rfl
  · exact .optional .object distinct rfl
  · exact .optional ToolAnnotations.readsBack distinct rfl
  · exact .optional .object distinct rfl

end Tool

theorem ListToolsResult.readsBack : ReadsBack encode decode := by
  have distinct : ["tools","nextCursor"].Nodup := by decide
  refine ReadsBack.record (fun r => ?_) "ListToolsResult"
  refine (Fields.Reads.map ?_ mk).seq ?_
  · exact .present (.list Tool.readsBack) distinct rfl
  · exact .optional .string distinct rfl

theorem ToolCall.readsBack : ReadsBack encode decode := by
  have distinct : ["name","arguments"].Nodup := by decide
  refine ReadsBack.record (fun c => ?_) "CallToolRequestParams"
  refine (Fields.Reads.map ?_ mk).seq ?_
  · exact .present .string distinct rfl
  · exact .optional .object distinct rfl

namespace Resource

theorem reads (r : Resource) : fields.Reads (Json.members r.members) r := by
  have distinct : ["uri","name","title","description","mimeType","size","_meta"].Nodup := by decide
  refine ((((((Fields.Reads.map ?_ mk).seq ?_).seq ?_).seq ?_).seq ?_).seq ?_).seq ?_
  · exact .present .string distinct rfl
  · exact .present .string distinct rfl
  · exact .optional .string distinct rfl
  · exact .optional .string distinct rfl
  · exact .optional .string distinct rfl
  · exact .optional .uint32 distinct rfl
  · exact .optional .object distinct rfl

theorem readsBack : ReadsBack encode decode := .record reads "RawResource"

end Resource

theorem ListResourcesResult.readsBack : ReadsBack encode decode := by
  have distinct : ["resources","nextCursor"].Nodup := by decide
  refine ReadsBack.record (fun r => ?_) "ListResourcesResult"
  refine (Fields.Reads.map ?_ mk).seq ?_
  · exact .present (.list Resource.readsBack) distinct rfl
  · exact .optional .string distinct rfl

namespace Contents

private def under (name text : String) (uri : String) (mimeType : Option String)
    (meta? : Option Meta) : List (String × Option Json) :=
  [("uri",some (.str uri)),("mimeType",mimeType.map .str),(name,some (.str text)),
    ("_meta",meta?.map .ofObject)]

private theorem decodeAs_under (name : String) (distinct : ["uri","mimeType",name,"_meta"].Nodup)
    (body : String → Body) (text uri : String) (mimeType : Option String) (meta? : Option Meta) :
    decodeAs name body (.record (under name text uri mimeType meta?)) =
      .ok ⟨uri,mimeType,body text,meta?⟩ := by
  obtain ⟨first,second,third⟩ : "uri" ≠ name ∧ "mimeType" ≠ name ∧ name ≠ "_meta" := by
    simp only [List.nodup_cons,List.mem_cons] at distinct
    tauto
  refine Fields.readMembers_eq_ok.mpr ?_
  refine (((Fields.Reads.map ?_ _).seq ?_).seq ?_).seq ?_
  · exact .present .string distinct rfl
  · exact .optional .string distinct rfl
  · refine .present .string distinct ?_
    simp [under,Entries.get?_cons,first,second]
  · refine .optional .object distinct ?_
    simp [under,Entries.get?_cons,third]

private theorem decodeAs_text_under_blob (text uri : String) (mimeType : Option String)
    (meta? : Option Meta) :
    (decodeAs "text" .text (.record (under "blob" text uri mimeType meta?))).toOption = none := by
  have distinct : ["uri","mimeType","blob","_meta"].Nodup := by decide
  cases read : decodeAs "text" .text (.record (under "blob" text uri mimeType meta?)) with
  | error e => rfl
  | ok c =>
    obtain ⟨_,_,first,-,-⟩ := (Fields.readMembers_eq_ok.mp read).of_seq
    obtain ⟨_,_,-,body,-⟩ := first.of_seq
    have missing : (Json.members (under "blob" text uri mimeType meta?)).get? "text" = none :=
      Json.get?_members (under "blob" text uri mimeType meta?) distinct "text"
    obtain ⟨_,there,-⟩ := Fields.Reads.required_iff.mp body
    cases missing.symm.trans there

theorem readsBack : ReadsBack encode decode where
  reads c := by
    obtain ⟨uri,mimeType,body,meta?⟩ := c
    cases body with
    | text text =>
      have read := decodeAs_under "text" (by decide) Body.text text uri mimeType meta?
      change Decode.firstOf _ _ (.record (under "text" text uri mimeType meta?)) = _
      rw [Decode.firstOf,List.findSome?_cons,read]
      rfl
    | blob text =>
      -- Text is tried first, and bytes must not read as text.
      have read := decodeAs_under "blob" (by decide) Body.blob text uri mimeType meta?
      change Decode.firstOf _ _ (.record (under "blob" text uri mimeType meta?)) = _
      rw [Decode.firstOf,List.findSome?_cons,decodeAs_text_under_blob,List.findSome?_cons,read]
      rfl
  notNull _ := nofun

end Contents

theorem ReadResourceParams.readsBack : ReadsBack encode decode := by
  have distinct : ["uri"].Nodup := by decide
  refine ReadsBack.record (fun p => ?_) "ReadResourceRequestParams"
  refine Fields.Reads.map ?_ mk
  exact .present .string distinct rfl

theorem ReadResourceResult.readsBack : ReadsBack encode decode := by
  have distinct : ["contents"].Nodup := by decide
  refine ReadsBack.record (fun r => ?_) "ReadResourceResult"
  refine Fields.Reads.map ?_ mk
  exact .present (.list Contents.readsBack) distinct rfl

namespace TextBlock

theorem reads (b : TextBlock) : fields.Reads (Json.members b.members) b := by
  have distinct : ["text","_meta"].Nodup := by decide
  refine (Fields.Reads.map ?_ mk).seq ?_
  · exact .present .string distinct rfl
  · exact .optional .object distinct rfl

end TextBlock

namespace ImageBlock

theorem reads (b : ImageBlock) : fields.Reads (Json.members b.members) b := by
  have distinct : ["data","mimeType","_meta"].Nodup := by decide
  refine ((Fields.Reads.map ?_ mk).seq ?_).seq ?_
  · exact .present .string distinct rfl
  · exact .present .string distinct rfl
  · exact .optional .object distinct rfl

end ImageBlock

namespace ResourceBlock

theorem reads (b : ResourceBlock) : fields.Reads (Json.members b.members) b := by
  have distinct : ["_meta","resource"].Nodup := by decide
  refine (Fields.Reads.map ?_ mk).seq ?_
  · exact .optional .object distinct rfl
  · exact .present Contents.readsBack distinct rfl

end ResourceBlock

namespace Content

def whole (c : Content) : List (String × Option Json) :=
  ("type",some (.str c.tag)) :: c.members

theorem nodup_whole (c : Content) : (c.whole.map (·.1)).Nodup := by
  cases c <;> simp [whole,members,TextBlock.members,ImageBlock.members,ResourceBlock.members,
    Resource.members]

theorem get?_type (c : Content) : c.encode.get? "type" = some (.str c.tag) :=
  Json.get?_record c.nodup_whole "type"

/-- Beside its tag a block has its own members, and none of them is called like the tag. -/
private theorem erase_type (c : Content) :
    (Json.members c.whole).erase "type" = Json.members c.members := by
  obtain ⟨apart,rest⟩ := List.nodup_cons.mp c.nodup_whole
  apply Dict.ext_get?
  intro key
  rw [Dict.get?_erase,Json.get?_members _ c.nodup_whole,Json.get?_members _ rest,whole,
    Entries.get?_cons]
  split_ifs with here
  · subst here
    rw [Entries.get?_eq_none_of_notMem apart]
    rfl
  · rfl

theorem readsBack : ReadsBack encode decode where
  reads c := by
    have tag : Entries.get? "type" (Json.members c.whole).entries = some (.str c.tag) := c.get?_type
    have rest : Entries.erase "type" (Json.members c.whole).entries =
        (Json.members c.members).entries := congrArg Dict.entries c.erase_type
    change Decode.tagged _ _ (.obj (Json.members c.whole).entries) = _
    simp only [Decode.tagged,tag,rest]
    cases c with
    | text b =>
      change text <$> TextBlock.fields.readMembers (Json.members b.members).entries = _
      rw [Fields.readMembers_eq_ok.mpr b.reads]
      rfl
    | image b =>
      change image <$> ImageBlock.fields.readMembers (Json.members b.members).entries = _
      rw [Fields.readMembers_eq_ok.mpr b.reads]
      rfl
    | resource b =>
      change resource <$> ResourceBlock.fields.readMembers (Json.members b.members).entries = _
      rw [Fields.readMembers_eq_ok.mpr b.reads]
      rfl
    | link r =>
      change link <$> Resource.fields.readMembers (Json.members r.members).entries = _
      rw [Fields.readMembers_eq_ok.mpr r.reads]
      rfl
  notNull _ := nofun

end Content

namespace ToolResult

/-- The result as it is read: `null` is no structured content. -/
def withoutNull (r : ToolResult) : ToolResult :=
  { r with structuredContent := r.structuredContent.filter (· ≠ .null) }

theorem withoutNull_eq_self {r : ToolResult} :
    r.withoutNull = r ↔ r.structuredContent ≠ some .null := by
  obtain ⟨content,structured,isError?,meta?⟩ := r
  cases structured with
  | none => simp [withoutNull]
  | some json => simp [withoutNull,Option.filter]

theorem decode_encode (r : ToolResult) : decode (encode r) = .ok r.withoutNull := by
  have distinct : ["content","structuredContent","isError","_meta"].Nodup := by decide
  refine Fields.readMembers_eq_ok.mpr ?_
  refine (((Fields.Reads.map ?_ mk).seq ?_).seq ?_).seq ?_
  · exact .present (.list Content.readsBack) distinct rfl
  · exact .optional_json distinct rfl
  · exact .optional .bool distinct rfl
  · exact .optional .object distinct rfl

end ToolResult

end ToolView
