import Mathlib
import ToolView.Proofs.Parts
import ToolView.View.Message

/-! What a message between a view and its host holds, and that it travels without loss. What was
written is read as it was, whoever wrote it, and whatever values it carries; and because the types
of the messages of the two sides are apart, nothing is read as a message of both. -/

namespace ToolView

namespace ViewMessage

inductive Carries (payload : Json) : ViewAction → Prop
  | tool (name params) (named : payload.part? 0 "toolName" = some (.str name))
      (given : (payload.part? 1 "params").elim (.ok .empty) Decode.object = .ok params) :
      Carries payload (.tool name params)
  | prompt (text) (said : payload.part? 0 "prompt" = some (.str text)) :
      Carries payload (.prompt text)
  | link (url) (named : payload.part? 0 "url" = some (.str url)) : Carries payload (.link url)
  | intent (name params) (named : payload.part? 0 "intent" = some (.str name))
      (given : (payload.part? 1 "params").elim (.ok .empty) Decode.object = .ok params) :
      Carries payload (.intent name params)
  | notify (text) (said : payload.part? 0 "message" = some (.str text)) :
      Carries payload (.notify text)
  | ready : Carries payload .ready
  | resize (width height)
      (wide : (payload.part? 0 "width").elim (.ok none) (Decode.optional Decode.double) = .ok width)
      (high : (payload.part? 1 "height").elim (.ok none) (Decode.optional Decode.double) =
        .ok height) : Carries payload (.resize width height)
  | requestData (type params) (named : payload.part? 0 "requestType" = some (.str type))
      (given : params = (payload.part? 1 "params").getD .null) :
      Carries payload (.requestData type params)
  | requestRenderData : Carries payload .requestRenderData

structure ReadFrom (json : Json) (m : ViewMessage) : Prop where
  typed : json.part? 0 "type" = some (.str m.action.type)
  named : m.messageId = (json.part? 1 "messageId").bind Json.string?
  carries : Carries ((json.part? 2 "payload").getD .null) m.action

private theorem getD_of_default {part : Option Json} {json : Json}
    (given : part.elim (.ok .null) Decode.json = .ok json) : json = part.getD .null := by
  cases part <;> cases given <;> rfl

theorem carries_of_ofPayload {type : String} {payload : Json} {action : ViewAction}
    (read : ViewAction.ofPayload type payload = .ok action) :
    action.type = type ∧ Carries payload action := by
  have takes {name : String} {fields : Fields Json ViewAction} {f : DecodeError → ContentFault}
      (read : (Decode.record name fields payload).mapError f = .ok action) :
      fields.Takes 0 payload action := Decode.takes_of_record (ok_of_mapError read)
  unfold ViewAction.ofPayload at read
  -- One case a type, in the order of the definition; a type that is none of them reads as nothing.
  split at read
  next =>
    obtain ⟨f,params,front,given,rfl⟩ := (takes read).of_seq (.map .field _)
    obtain ⟨name,named,rfl⟩ := front.of_map
    exact ⟨rfl,.tool name params (named.of_text 0) (given.of_default 1)⟩
  next =>
    obtain ⟨text,said,rfl⟩ := (takes read).of_map
    exact ⟨rfl,.prompt text (said.of_text 0)⟩
  next =>
    obtain ⟨url,named,rfl⟩ := (takes read).of_map
    exact ⟨rfl,.link url (named.of_text 0)⟩
  next =>
    obtain ⟨f,params,front,given,rfl⟩ := (takes read).of_seq (.map .field _)
    obtain ⟨name,named,rfl⟩ := front.of_map
    exact ⟨rfl,.intent name params (named.of_text 0) (given.of_default 1)⟩
  next =>
    obtain ⟨text,said,rfl⟩ := (takes read).of_map
    exact ⟨rfl,.notify text (said.of_text 0)⟩
  next =>
    cases read
    exact ⟨rfl,.ready⟩
  next =>
    obtain ⟨f,height,front,high,rfl⟩ := (takes read).of_seq (.map .field _)
    obtain ⟨width,wide,rfl⟩ := front.of_map
    exact ⟨rfl,.resize width height (wide.of_optional 0) (high.of_optional 1)⟩
  next =>
    obtain ⟨f,params,front,given,rfl⟩ := (takes read).of_seq (.map .field _)
    obtain ⟨name,named,rfl⟩ := front.of_map
    exact ⟨rfl,.requestData name params (named.of_text 0) (getD_of_default (given.of_default 1))⟩
  next =>
    cases read
    exact ⟨rfl,.requestRenderData⟩
  next => cases read

theorem readFrom_of_decode {json : Json} {m : ViewMessage} (read : decode json = .ok m) :
    ReadFrom json m := by
  obtain ⟨flat,shaped,read⟩ := ok_of_bind read
  obtain ⟨action,acts,read⟩ := ok_of_bind read
  cases read
  obtain ⟨same,carries⟩ := carries_of_ofPayload (ok_of_mapError acts)
  obtain ⟨f,payload,front,given,rfl⟩ :=
    (Decode.takes_of_record (ok_of_mapError shaped)).of_seq (.seq (.map .field _) .field)
  obtain ⟨g,id,begins,named,rfl⟩ := front.of_seq (.map .field _)
  obtain ⟨type,typed,rfl⟩ := begins.of_map
  refine ⟨?_,?_,?_⟩
  · rw [same]
    exact typed.of_text 0
  · have named := named.of_default 1
    change id = _
    cases there : json.part? 1 "messageId" with
    | none => rw [there] at named; exact (Except.ok.inj named).symm
    | some part => rw [there] at named; exact Decode.optional_string_eq_ok named
  · exact getD_of_default (given.of_default 2) ▸ carries

end ViewMessage

theorem FlatMessage.readsBack : ReadsBack FlatMessage.encode FlatMessage.decode := by
  have distinct : ["type","messageId","payload"].Nodup := by decide
  refine ReadsBack.record (fun m => ?_) "RawUiMessage"
  refine ((Fields.Reads.map ?_ mk).seq ?_).seq ?_
  · exact .present .string distinct rfl
  · exact .optional .string distinct rfl
  · refine .default_json distinct rfl ?_
    split_ifs with none
    · exact none.symm
    · rfl

namespace ViewAction

theorem readsBack_double :
    ReadsBack encodeDouble (Decode.double : Json → Except DecodeError Binary64) :=
  ⟨fun _ => rfl,fun _ => nofun⟩

private theorem payload_reads (type name : String) {fields : Fields Json ViewAction}
    {members : List (String × Option Json)} {a : ViewAction}
    (reads : fields.Reads (Json.members members) a) :
    (Decode.record name fields (.record members)).mapError (.badPayload type) =
      (.ok a : Except ContentFault ViewAction) := by
  have read : Decode.record name fields (.record members) = .ok a :=
    Fields.readMembers_eq_ok.mpr reads
  rw [read]
  rfl

/-- A payload of one text. -/
private theorem text_reads (name text : String) (action : String → ViewAction) :
    (action <$> Fields.required name Decode.string).Reads
      (Json.members [(name,some (.str text))]) (action text) := by
  refine Fields.Reads.map ?_ action
  exact .present .string (List.nodup_singleton name) (if_pos rfl)

/-- A payload of a name and parameters. -/
private theorem call_reads {name : String} (apart : name ≠ "params") (text : String)
    (params : Object) (action : String → Object → ViewAction) :
    (action <$> Fields.required name Decode.string
      <*> Fields.withDefault "params" Decode.object .empty).Reads
      (Json.members [(name,some (.str text)),("params",some (.ofObject params))])
      (action text params) := by
  have distinct : [name,"params"].Nodup := by simp [apart]
  refine (Fields.Reads.map ?_ action).seq ?_
  · exact .present .string distinct (if_pos rfl)
  · exact .present .object distinct ((if_neg apart).trans (if_pos rfl))

theorem ofPayload_payload (a : ViewAction) : ofPayload a.type a.payload = .ok a := by
  cases a with
  | tool name params =>
    exact payload_reads "tool" "ToolPayload" (call_reads (by decide) name params tool)
  | prompt text => exact payload_reads "prompt" "PromptPayload" (text_reads "prompt" text prompt)
  | link url => exact payload_reads "link" "LinkPayload" (text_reads "url" url link)
  | intent name params =>
    exact payload_reads "intent" "IntentPayload" (call_reads (by decide) name params intent)
  | notify message =>
    exact payload_reads "notify" "NotifyPayload" (text_reads "message" message notify)
  | ready => rfl
  | resize width height =>
    have distinct : ["width","height"].Nodup := by decide
    refine payload_reads "ui-size-change" "SizePayload" ?_
    refine (Fields.Reads.map ?_ resize).seq ?_
    · exact .optional readsBack_double distinct rfl
    · exact .optional readsBack_double distinct rfl
  | requestData type params =>
    have distinct : ["requestType","params"].Nodup := by decide
    refine payload_reads "ui-request-data" "RequestDataPayload" ?_
    refine (Fields.Reads.map ?_ requestData).seq ?_
    · exact .present .string distinct rfl
    · exact .default_json distinct rfl rfl
  | requestRenderData => rfl

end ViewAction

theorem HostReply.ofFlat_flat (r : HostReply) : ofFlat r.flat = .ok r := by
  cases r with
  | received id => rfl
  | response id outcome => cases outcome <;> rfl
  | renderData data => rfl

theorem ViewMessage.decode_encode (m : ViewMessage) : decode m.encode = .ok m := by
  rw [decode,encode,FlatMessage.readsBack.reads]
  change ((ViewAction.ofPayload m.action.type m.action.payload).mapError MessageFault.content >>=
    fun action => .ok (mk action m.messageId)) = _
  rw [ViewAction.ofPayload_payload]
  rfl

theorem HostReply.decode_encode (r : HostReply) : decode r.encode = .ok r := by
  rw [decode,encode,FlatMessage.readsBack.reads]
  change (ofFlat r.flat).mapError MessageFault.content = _
  rw [ofFlat_flat]
  rfl

theorem HostReply.type_of_ofFlat {flat : FlatMessage} {r : HostReply}
    (read : ofFlat flat = .ok r) : r.type = flat.type := by
  unfold ofFlat at read
  split at read
  next typed _ => cases read; exact typed.symm
  next typed _ =>
    rw [typed]
    split at read <;> cases read <;> rfl
  next => cases read
  next => cases read
  next typed => cases read; exact typed.symm
  next => cases read

/-- No message has the type of a message of the other side. -/
theorem ViewAction.type_ne (a : ViewAction) (r : HostReply) : a.type ≠ r.type := by
  cases a <;> cases r <;> simp [ViewAction.type,HostReply.type]

/-- Both sides read the same flat form, and by its type one of them refuses it. -/
theorem HostReply.decode_ne {json : Json} {m : ViewMessage} (read : ViewMessage.decode json = .ok m)
    (r : HostReply) : decode json ≠ .ok r := by
  intro other
  obtain ⟨flat,shaped,read⟩ := ok_of_bind read
  obtain ⟨action,acts,-⟩ := ok_of_bind read
  obtain ⟨flat',again,answers⟩ := ok_of_bind other
  cases shaped.symm.trans again
  have asked := (ViewMessage.carries_of_ofPayload (ok_of_mapError acts)).1
  have said := type_of_ofFlat (ok_of_mapError answers)
  exact action.type_ne r (asked.trans said.symm)

/-- Messages travel without loss, from a view and from a host. What is read from any value is read
again once it is written, and a value that is a message from one side is none from the other. -/
theorem messages_travel :
    (∀ m : ViewMessage, ViewMessage.decode m.encode = .ok m ∧
      ∀ r, HostReply.decode m.encode ≠ .ok r) ∧
    (∀ r : HostReply, HostReply.decode r.encode = .ok r ∧
      ∀ m, ViewMessage.decode r.encode ≠ .ok m) ∧
    (∀ json m, ViewMessage.decode json = .ok m →
      ViewMessage.decode m.encode = .ok m ∧ ∀ r, HostReply.decode json ≠ .ok r) ∧
    ∀ json r, HostReply.decode json = .ok r →
      HostReply.decode r.encode = .ok r ∧ ∀ m, ViewMessage.decode json ≠ .ok m := by
  refine ⟨fun m => ⟨m.decode_encode,?_⟩,fun r => ⟨r.decode_encode,?_⟩,fun json m read => ?_,
    fun json r read => ?_⟩
  · exact HostReply.decode_ne m.decode_encode
  · exact fun m read => HostReply.decode_ne read r r.decode_encode
  · exact ⟨m.decode_encode,HostReply.decode_ne read⟩
  · exact ⟨r.decode_encode,fun m other => HostReply.decode_ne other r read⟩

namespace FlatMessage.Sample

def resize : Json :=
  .record [("type",some (.str "ui-size-change")),("messageId",some (.str "m-1")),
    ("payload",some (.record [("width",some (Json.uint32 240)),("height",some .null)]))]

def failed : Json :=
  .arr [.str "ui-message-response",.str "m-1",.record [("error",some .null)]]

end FlatMessage.Sample

theorem messages_travel_resize :
    let m : ViewMessage := ⟨.resize (Binary64.ofInt? 240) none,some "m-1"⟩
    let r : HostReply := .response "m-1" (.error .null)
    ViewMessage.decode FlatMessage.Sample.resize = .ok m ∧
      HostReply.decode FlatMessage.Sample.failed = .ok r ∧
      ViewMessage.decode m.encode = .ok m ∧ HostReply.decode r.encode = .ok r ∧
      HostReply.decode FlatMessage.Sample.resize ≠ .ok r ∧
      ViewMessage.decode FlatMessage.Sample.failed ≠ .ok m := by
  intro m r
  have asked : ViewMessage.decode FlatMessage.Sample.resize = .ok m := by rfl
  have said : HostReply.decode FlatMessage.Sample.failed = .ok r := by rfl
  obtain ⟨-,-,fromView,fromHost⟩ := messages_travel
  obtain ⟨back,others⟩ := fromView _ m asked
  obtain ⟨backAgain,none⟩ := fromHost _ r said
  exact ⟨asked,said,back,backAgain,others r,none m⟩

end ToolView
