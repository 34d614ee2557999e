import Mathlib
import ToolView.Host.Plan
import ToolView.Proofs.Bytes
import ToolView.Proofs.Codec
import ToolView.Proofs.Text
import ToolView.Proofs.View.Wishes

/-! What a host makes of a view that was just created: the kind that its content has, and the text
that its author wrote, however the text travels. -/

namespace ToolView

private theorem isBlank_of_visible {b : UInt8} (visible : 33 ≤ b.toNat ∧ b.toNat < 127) :
    Text.isBlank (Char.ofNat b.toNat) = false := by
  have value : (Char.ofNat b.toNat).toNat = b.toNat := by
    rw [Char.ofNat,dif_pos (.inl (by omega))]
    rfl
  simp only [Text.isBlank,value]
  simp
  omega

/-- Bytes in base64 are read as the text they were made of, whatever blanks stand around them. -/
theorem Contents.decodedText_around {c : Contents} {text : String} {before after : List Char}
    (lead : ∀ ch ∈ before, Text.isBlank ch) (trail : ∀ ch ∈ after, Text.isBlank ch)
    (body : c.body = .blob (String.ofList (before ++ (encodeBlob text).toList ++ after))) :
    c.decodedText = .ok text := by
  have visible := Base64.encode_visible (Utf8.encode text.toList)
  have ascii : ∀ b ∈ Base64.encode (Utf8.encode text.toList), b < 128 := by
    intro b member
    have small := (visible b member).2
    rw [UInt8.lt_iff_toNat_lt]
    exact small.trans (by decide)
  have trimmed : Text.trim (before ++ (encodeBlob text).toList ++ after) =
      (encodeBlob text).toList := by
    rw [Text.trim,Text.trimBy_around lead trail]
    refine Text.trimBy_eq_self (.of_forall fun c member => ?_)
    rw [encodeBlob,String.toList_ofList] at member
    obtain ⟨b,inside,rfl⟩ := List.mem_map.mp member
    exact isBlank_of_visible (visible b inside)
  have bytes : Utf8.encode (encodeBlob text).toList = Base64.encode (Utf8.encode text.toList) := by
    rw [encodeBlob,String.toList_ofList,Utf8.encode_ascii ascii]
  rw [decodedText,body]
  dsimp only
  rw [String.toList_ofList,trimmed,bytes,Base64.decode_encode]
  dsimp only
  rw [Utf8.decode_encode]
  dsimp only
  rw [String.ofList_toList]

theorem Contents.decodedText_encodeBlob {c : Contents} {text : String}
    (body : c.body = .blob (encodeBlob text)) : c.decodedText = .ok text := by
  refine decodedText_around (List.forall_mem_nil _) (List.forall_mem_nil _) ?_
  rw [body,List.nil_append,List.append_nil,String.ofList_toList]

theorem ViewKind.parse_mimeType (kind : ViewKind) : parse kind.mimeType = .ok kind := by
  cases kind with
  | remoteDom framework => cases framework <;> rfl
  | _ => rfl

theorem ViewMetadata.ofMeta?_nonempty? (m : Meta) : ofMeta? m.nonempty? = ofMeta m := by
  rw [Meta.nonempty?]
  split_ifs with empty
  · rw [ofMeta,List.isEmpty_iff.mp empty]
    rfl
  · rfl

theorem RenderPlan.ofContents_eq_ok {c : Contents} {sandbox : SandboxConfig} {plan : RenderPlan}
    (planned : ofContents c sandbox = .ok plan) :
    ∃ mode text content, modeOf c = .ok mode ∧ c.decodedText = .ok text ∧
      contentFor mode text = .ok content ∧
      plan = ⟨c.uri,mode,content,ViewNeeds.ofContents? c,ViewMetadata.ofMeta? c.meta?,
        .of sandbox (ViewNeeds.ofContents? c)⟩ := by
  obtain ⟨mode,kind,ok⟩ := ok_of_bind planned
  obtain ⟨text,read,ok⟩ := ok_of_bind ok
  obtain ⟨content,drawn,ok⟩ := ok_of_bind ok
  exact ⟨mode,text,content,kind,read,drawn,(Except.ok.inj ok).symm⟩

namespace NewView

theorem create_eq_ok {n : NewView} {v : ViewResource} (ok : n.create = .ok v) :
    isViewUri n.uri = true ∧ ∃ text part, n.content.payload = .ok (text,part) ∧
      v.resource.uri = n.uri ∧ v.resource.mimeType = some n.content.kind.mimeType ∧
      v.resource.meta? = n.resourceMeta ∧ v.resource.decodedText = .ok text := by
  rw [create] at ok
  split_ifs at ok with elsewhere
  refine ⟨by simpa using elsewhere,?_⟩
  cases payload : n.content.payload with
  | error fault =>
    rw [ViewContent.checkedPayload,payload] at ok
    cases ok
  | ok made =>
    obtain ⟨text,part⟩ := made
    have checked : n.content.checkedPayload =
        if (Text.trim text.toList).isEmpty then .error (.empty part) else .ok text := by
      rw [ViewContent.checkedPayload,payload]
      rfl
    rw [checked] at ok
    split_ifs at ok with blank
    cases ok
    refine ⟨text,part,rfl,rfl,rfl,rfl,?_⟩
    cases n.encoding with
    | text => rfl
    | blob => exact Contents.decodedText_encodeBlob rfl

/-- The plan for a created view, when its content is one that the host takes. -/
theorem plan_of_create {n : NewView} {v : ViewResource} (ok : n.create = .ok v)
    (sandbox : SandboxConfig) :
    ∃ text part, n.content.payload = .ok (text,part) ∧
      RenderPlan.ofContents v.resource sandbox =
        (RenderPlan.contentFor n.content.kind text).map fun content =>
          ⟨n.uri,n.content.kind,content,ViewNeeds.ofContents? v.resource,
            ViewMetadata.ofMeta (n.wishes.toMeta.extendMissing n.metadata),
            .of sandbox (ViewNeeds.ofContents? v.resource)⟩ := by
  obtain ⟨_,text,part,payload,uri,mimeType,metadata,decoded⟩ := create_eq_ok ok
  refine ⟨text,part,payload,?_⟩
  have mode : RenderPlan.modeOf v.resource = .ok n.content.kind := by
    rw [RenderPlan.modeOf,mimeType]
    exact ViewKind.parse_mimeType _
  rw [RenderPlan.ofContents,mode,decoded,uri,metadata,resourceMeta,ViewMetadata.ofMeta?_nonempty?]
  change (RenderPlan.contentFor n.content.kind text).bind _ = _
  cases RenderPlan.contentFor n.content.kind text <;> rfl

theorem exists_create {n : NewView} (accepted : n.create.isOk) : ∃ v, n.create = .ok v := by
  cases made : n.create with
  | error e => rw [made] at accepted; cases accepted
  | ok v => exact ⟨v,rfl⟩

namespace Sample

def sandbox : SandboxConfig :=
  ⟨⟨"https","",none,some (.domain "sandbox.example"),none,.segments [""],none,none⟩,
    SandboxConfig.defaultTokens,none⟩

def view (content : ViewContent) (encoding : ViewEncoding) : NewView :=
  ⟨"ui://sample/view",content,encoding,.none,.empty,.none⟩

end Sample

end NewView

end ToolView
