import Mathlib
import ToolView.Protocol.Handshake
import ToolView.Proofs.Wire

/-! What a server says of itself reads back like what it says of tools and resources, and so the
whole protocol of the server travels without loss: every type reads back as it was written, what
kind of content a value is can be seen from its members, and metadata stands as it was given. -/

namespace ToolView

theorem ToolsCapability.readsBack : ReadsBack encode decode := by
  have distinct : ["listChanged"].Nodup := by decide
  refine ReadsBack.record (fun c => ?_) "ToolsCapability"
  refine Fields.Reads.map ?_ mk
  exact .optional .bool distinct rfl

theorem ResourcesCapability.readsBack : ReadsBack encode decode := by
  have distinct : ["subscribe","listChanged"].Nodup := by decide
  refine ReadsBack.record (fun c => ?_) "ResourcesCapability"
  refine (Fields.Reads.map ?_ mk).seq ?_
  · exact .optional .bool distinct rfl
  · exact .optional .bool distinct rfl

theorem ServerCapabilities.readsBack : ReadsBack encode decode := by
  have distinct : ["tools","resources","experimental"].Nodup := by decide
  refine ReadsBack.record (fun c => ?_) "ServerCapabilities"
  refine ((Fields.Reads.map ?_ mk).seq ?_).seq ?_
  · exact .optional ToolsCapability.readsBack distinct rfl
  · exact .optional ResourcesCapability.readsBack distinct rfl
  · exact .optional .object distinct rfl

theorem Implementation.readsBack : ReadsBack encode decode := by
  have distinct : ["name","version","title"].Nodup := by decide
  refine ReadsBack.record (fun i => ?_) "Implementation"
  refine ((Fields.Reads.map ?_ mk).seq ?_).seq ?_
  · exact .present .string distinct rfl
  · exact .present .string distinct rfl
  · exact .optional .string distinct rfl

theorem InitializeResult.readsBack : ReadsBack encode decode := by
  have distinct : ["protocolVersion","capabilities","serverInfo","instructions"].Nodup := by
    decide
  refine ReadsBack.record (fun r => ?_) "InitializeResult"
  refine (((Fields.Reads.map ?_ mk).seq ?_).seq ?_).seq ?_
  · exact .present .string distinct rfl
  · exact .present ServerCapabilities.readsBack distinct rfl
  · exact .present Implementation.readsBack distinct rfl
  · exact .optional .string distinct rfl

/-- The metadata of a value stands under `_meta` entry for entry; without any there is no such
member. -/
def CarriesMeta {α : Type} (encode : α → Json) (meta? : α → Option Meta) : Prop :=
  ∀ value, (encode value).get? "_meta" = (meta? value).map .ofObject

namespace Tool

theorem carriesMeta : CarriesMeta encode meta? := by
  have distinct : ["name","title","description","inputSchema","outputSchema","annotations",
    "_meta"].Nodup := by decide
  intro t
  exact Json.get?_record (by exact distinct) "_meta"

end Tool

namespace Resource

theorem carriesMeta : CarriesMeta encode meta? := by
  have distinct : ["uri","name","title","description","mimeType","size","_meta"].Nodup := by decide
  intro r
  exact Json.get?_record (by exact distinct) "_meta"

end Resource

namespace Contents

private theorem nodup_asText : ["uri","mimeType","text","_meta"].Nodup := by decide

private theorem nodup_asBlob : ["uri","mimeType","blob","_meta"].Nodup := by decide

theorem carriesMeta : CarriesMeta encode meta? := by
  intro c
  obtain ⟨uri,mimeType,body,meta?⟩ := c
  cases body with
  | text s => exact Json.get?_record (by exact nodup_asText) "_meta"
  | blob s => exact Json.get?_record (by exact nodup_asBlob) "_meta"

namespace Body

def text? : Body → Option String
  | .text s => some s
  | .blob _ => none

def blob? : Body → Option String
  | .text _ => none
  | .blob s => some s

end Body

theorem get?_text (c : Contents) : c.encode.get? "text" = c.body.text?.map .str := by
  obtain ⟨uri,mimeType,body,meta?⟩ := c
  cases body with
  | text s => exact Json.get?_record (by exact nodup_asText) "text"
  | blob s => exact Json.get?_record (by exact nodup_asBlob) "text"

theorem get?_blob (c : Contents) : c.encode.get? "blob" = c.body.blob?.map .str := by
  obtain ⟨uri,mimeType,body,meta?⟩ := c
  cases body with
  | text s => exact Json.get?_record (by exact nodup_asText) "blob"
  | blob s => exact Json.get?_record (by exact nodup_asBlob) "blob"

end Contents

namespace Content

/-- The metadata of a block: a link to a resource has that of the resource. -/
def meta? : Content → Option Meta
  | text b => b.meta?
  | image b => b.meta?
  | resource b => b.meta?
  | link r => r.meta?

theorem carriesMeta : CarriesMeta encode meta? := by
  intro c
  refine (Json.get?_record c.nodup_whole "_meta").trans ?_
  cases c <;> rfl

end Content

namespace ToolResult

theorem carriesMeta : CarriesMeta encode meta? := by
  have distinct : ["content","structuredContent","isError","_meta"].Nodup := by decide
  intro r
  exact Json.get?_record (by exact distinct) "_meta"

/-- Only structured content that is `null` does not come back. -/
theorem decode_encode_eq_self (r : ToolResult) :
    decode r.encode = .ok r ↔ r.structuredContent ≠ some .null := by
  rw [decode_encode,Except.ok.injEq,withoutNull_eq_self]

end ToolResult

/-- How the types of the server protocol travel. Each reads back as it was written, so that no two
of its values are written alike; a result of a tool does so exactly if its structured content is
not `null`. -/
structure Travels : Prop where
  tool : ReadsBack Tool.encode Tool.decode
  tools : ReadsBack ListToolsResult.encode ListToolsResult.decode
  resource : ReadsBack Resource.encode Resource.decode
  resources : ReadsBack ListResourcesResult.encode ListResourcesResult.decode
  contents : ReadsBack Contents.encode Contents.decode
  readResult : ReadsBack ReadResourceResult.encode ReadResourceResult.decode
  content : ReadsBack Content.encode Content.decode
  toolResult : ∀ r : ToolResult,
    ToolResult.decode r.encode = .ok r ↔ r.structuredContent ≠ some .null
  capabilities : ReadsBack ServerCapabilities.encode ServerCapabilities.decode
  greeting : ReadsBack InitializeResult.encode InitializeResult.decode
  body : ∀ c : Contents, c.encode.get? "text" = c.body.text?.map .str ∧
    c.encode.get? "blob" = c.body.blob?.map .str
  tag : ∀ c : Content, c.encode.get? "type" = some (.str c.tag)
  toolMeta : CarriesMeta Tool.encode Tool.meta?
  resourceMeta : CarriesMeta Resource.encode Resource.meta?
  contentsMeta : CarriesMeta Contents.encode Contents.meta?
  contentMeta : CarriesMeta Content.encode Content.meta?
  resultMeta : CarriesMeta ToolResult.encode ToolResult.meta?

/-- The protocol of the server travels without loss. -/
theorem protocol_travels : Travels where
  tool := Tool.readsBack
  tools := ListToolsResult.readsBack
  resource := Resource.readsBack
  resources := ListResourcesResult.readsBack
  contents := Contents.readsBack
  readResult := ReadResourceResult.readsBack
  content := Content.readsBack
  toolResult := ToolResult.decode_encode_eq_self
  capabilities := ServerCapabilities.readsBack
  greeting := InitializeResult.readsBack
  body c := ⟨c.get?_text,c.get?_blob⟩
  tag := Content.get?_type
  toolMeta := Tool.carriesMeta
  resourceMeta := Resource.carriesMeta
  contentsMeta := Contents.carriesMeta
  contentMeta := Content.carriesMeta
  resultMeta := ToolResult.carriesMeta

end ToolView
