import Mathlib
import ToolView.Host.Dispatcher
import ToolView.Proofs.Bridge.Tools
import ToolView.Proofs.View.Message

/-! What becomes of a message from a view that has no bridge. One that cannot be read is an error,
and nobody hears of it. One that can be read goes to the handler that is there for it; the view is
told that the message has come, then the data to be shown with, where it asks for them, and at last
what the handler says, which is no error of the host even where the handler fails. -/

namespace ToolView

namespace Dispatcher

/-- What is put to a handler for an action; for two kinds of actions nothing is. -/
def question? : ViewAction → Option HostEvent
  | .tool name params => some (.toolCall ⟨name,some params⟩)
  | .prompt text => some (.prompt text)
  | .link url => some (.openLink url)
  | .intent name params => some (.intent name params)
  | .notify text => some (.notify text)
  | .resize width height => some (.sizeChanged width height)
  | .requestData type params => some (.requestData type params)
  | .ready | .requestRenderData => none

/-- What is heard from a handler about an action that is to be answered. -/
inductive Heard (s : Surroundings) : ViewAction → Except HostError Json → Prop
  | tool (name params) : Heard s (.tool name params)
      (((s.handlers.toolCall ⟨name,some params⟩).run s.client).1.map ToolResult.encode)
  | prompt (text) : Heard s (.prompt text) (s.handlers.prompt text)
  | link (url) : Heard s (.link url) ((s.handlers.openLink url).map fun () => .null)
  | intent (name params) : Heard s (.intent name params) (s.handlers.intent name params)
  | notify (text) : Heard s (.notify text) ((s.handlers.notify text).map fun () => .null)
  | requestData (type params) :
      Heard s (.requestData type params) (s.handlers.requestData type params)

def answeredTypes : List String := ["tool","prompt","link","intent","notify","ui-request-data"]

def dataTypes : List String := ["ui-lifecycle-iframe-ready","ui-request-render-data"]

section acts
variable {s : Surroundings} {wishes : ViewMetadata} {action : ViewAction}

theorem outcome_eq_some {outcome : Except HostError Json} :
    (act s wishes action).outcome = some outcome ↔ Heard s action outcome := by
  constructor
  · intro comes
    cases action <;> cases comes <;> constructor
  · intro heard
    cases heard <;> rfl

theorem exists_heard_iff : (∃ outcome, Heard s action outcome) ↔ action.type ∈ answeredTypes := by
  constructor
  · rintro ⟨outcome,heard⟩
    cases heard <;> simp [ViewAction.type,answeredTypes]
  · intro answered
    cases action with
    | tool name params => exact ⟨_,.tool name params⟩
    | prompt text => exact ⟨_,.prompt text⟩
    | link url => exact ⟨_,.link url⟩
    | intent name params => exact ⟨_,.intent name params⟩
    | notify text => exact ⟨_,.notify text⟩
    | requestData type params => exact ⟨_,.requestData type params⟩
    | ready | resize width height | requestRenderData =>
      simp [ViewAction.type,answeredTypes] at answered

theorem question?_eq_none : question? action = none ↔ action.type ∈ dataTypes := by
  cases action <;> simp [question?,ViewAction.type,dataTypes]

theorem mem_extra {reply : HostReply} : reply ∈ (act s wishes action).extra ↔
    action.type ∈ dataTypes ∧ ∃ data, wishes.initialRenderData = some data ∧
      reply = .renderData data := by
  have data : reply ∈ renderData wishes ↔
      ∃ data, wishes.initialRenderData = some data ∧ reply = .renderData data := by
    simp only [renderData,Option.mem_toList,Option.map_eq_some_iff,eq_comm]
  rw [← question?_eq_none]
  cases action with
  | ready | requestRenderData => exact data.trans (and_iff_right rfl).symm
  | tool _ _ | prompt _ | link _ | intent _ _ | notify _ | resize _ _ | requestData _ _ =>
    exact ⟨nofun,fun both => nomatch both.1⟩

/-- The handler that is there for an action is told of it first; only one that is told of a call
may then ask the client. -/
theorem act_events (s : Surroundings) (wishes : ViewMetadata) (action : ViewAction) :
    ∃ asked, (act s wishes action).events = (question? action).toList ++ asked ∧
    (∀ e ∈ asked, e.isForClient) ∧ (asked ≠ [] → action.type = "tool") := by
  cases action with
  | tool name params =>
    refine ⟨_,rfl,?_,fun _ => rfl⟩
    exact Conversation.run_isForClient s.client (s.handlers.toolCall ⟨name,some params⟩)
  | ready | requestRenderData | prompt _ | link _ | intent _ _ | notify _ | resize _ _
  | requestData _ _ => exact ⟨[],rfl,List.forall_mem_nil _,fun some => absurd rfl some⟩

theorem isForClient_of_question {e : HostEvent} (asks : question? action = some e) :
    e.isForClient = false := by
  cases action <;> cases asks <;> rfl

end acts

def told (e : HostError) : Json := .record [("message",some (.str e.message))]

/-- What a host does with a message that it has read: whom it asks, and what it posts in return. -/
structure Dispatched (s : Surroundings) (wishes : ViewMetadata) (m : ViewMessage)
    (replies : List HostReply) (events : List HostEvent) : Prop where
  asked : events.filter (!·.isForClient) = (question? m.action).toList
  unasked : events = [] ↔ m.action.type ∈ dataTypes
  client : ∀ e ∈ events, e.isForClient → m.action.type = "tool"
  ordered : (replies.map HostReply.type).Sublist
    ["ui-message-received","ui-lifecycle-iframe-render-data","ui-message-response"]
  received : ∀ id, .received id ∈ replies ↔ m.messageId = some id
  shown : ∀ data, .renderData data ∈ replies ↔
    m.action.type ∈ dataTypes ∧ wishes.initialRenderData = some data
  answered : (∃ outcome, Heard s m.action outcome) ↔ m.action.type ∈ answeredTypes
  succeeded : ∀ id value, .response id (.response value) ∈ replies ↔
    m.messageId = some id ∧ Heard s m.action (.ok value)
  failed : ∀ id json, .response id (.error json) ∈ replies ↔
    m.messageId = some id ∧ ∃ e, Heard s m.action (.error e) ∧ json = told e

section replies
variable {id? : Option String} {reply : HostReply}

theorem mem_acknowledge : reply ∈ acknowledge id? ↔ ∃ id, id? = some id ∧ reply = .received id := by
  simp only [acknowledge,Option.mem_toList,Option.map_eq_some_iff,eq_comm]

theorem mem_respond {outcome? : Option (Except HostError Json)} : reply ∈ respond id? outcome? ↔
    ∃ id outcome, id? = some id ∧ outcome? = some outcome ∧
      reply = .response id (replyOutcome outcome) := by
  cases id? <;> cases outcome? <;> simp [respond]

theorem replyOutcome_eq_response {outcome : Except HostError Json} {value : Json} :
    replyOutcome outcome = .response value ↔ outcome = .ok value := by
  cases outcome <;> simp [replyOutcome]

theorem replyOutcome_eq_error {outcome : Except HostError Json} {json : Json} :
    replyOutcome outcome = .error json ↔ ∃ e, outcome = .error e ∧ json = told e := by
  cases outcome <;> simp [replyOutcome,told,eq_comm]

end replies

section handles
variable (s : Surroundings) (wishes : ViewMetadata) (m : ViewMessage)

private def posted : List HostReply :=
  acknowledge m.messageId ++ (act s wishes m.action).extra ++
    respond m.messageId (act s wishes m.action).outcome

variable {s wishes m}

private theorem mem_posted {reply : HostReply} : reply ∈ posted s wishes m ↔
    (∃ id, m.messageId = some id ∧ reply = .received id) ∨
    (m.action.type ∈ dataTypes ∧ ∃ data, wishes.initialRenderData = some data ∧
      reply = .renderData data) ∨
    ∃ id outcome, m.messageId = some id ∧ Heard s m.action outcome ∧
      reply = .response id (replyOutcome outcome) := by
  simp only [posted,List.mem_append,mem_acknowledge,mem_extra,mem_respond,outcome_eq_some,or_assoc]

private theorem posted_ordered : ((posted s wishes m).map HostReply.type).Sublist
    ["ui-message-received","ui-lifecycle-iframe-render-data","ui-message-response"] := by
  have came : ((acknowledge m.messageId).map HostReply.type).Sublist ["ui-message-received"] := by
    cases m.messageId with
    | none => exact List.nil_sublist _
    | some id => exact List.Sublist.refl _
  have brought : ((renderData wishes).map HostReply.type).Sublist
      ["ui-lifecycle-iframe-render-data"] := by
    rw [renderData]
    cases wishes.initialRenderData with
    | none => exact List.nil_sublist _
    | some data => exact List.Sublist.refl _
  have extra : ((act s wishes m.action).extra.map HostReply.type).Sublist
      ["ui-lifecycle-iframe-render-data"] := by
    cases m.action with
    | ready | requestRenderData => exact brought
    | _ => exact List.nil_sublist _
  have answer : ((respond m.messageId (act s wishes m.action).outcome).map HostReply.type).Sublist
      ["ui-message-response"] := by
    cases m.messageId with
    | none => exact List.nil_sublist _
    | some id =>
      cases (act s wishes m.action).outcome with
      | none => exact List.nil_sublist _
      | some outcome => exact List.Sublist.refl _
  rw [posted,List.map_append,List.map_append]
  exact (came.append extra).append answer

private theorem act_asked :
    (act s wishes m.action).events.filter (!·.isForClient) = (question? m.action).toList := by
  obtain ⟨asked,events,forClient,-⟩ := act_events s wishes m.action
  have others : asked.filter (!·.isForClient) = [] :=
    List.filter_eq_nil_iff.mpr fun e member => by rw [forClient e member]; exact Bool.false_ne_true
  rw [events,List.filter_append,others,List.append_nil]
  cases asks : question? m.action with
  | none => rfl
  | some e => exact List.filter_cons_of_pos (by rw [isForClient_of_question asks]; rfl)

private theorem act_unasked :
    (act s wishes m.action).events = [] ↔ m.action.type ∈ dataTypes := by
  rw [← question?_eq_none]
  constructor
  · intro none
    have asked := @act_asked s wishes m
    rw [none,List.filter_nil] at asked
    exact Option.toList_eq_nil_iff.mp asked.symm
  · intro none
    cases action : m.action <;> rw [action] at none <;> first | rfl | cases none

private theorem act_client {e : HostEvent} (member : e ∈ (act s wishes m.action).events)
    (forClient : e.isForClient) : m.action.type = "tool" := by
  obtain ⟨asked,events,-,tool⟩ := act_events s wishes m.action
  rw [events] at member
  obtain first | later := List.mem_append.mp member
  · have other := isForClient_of_question (Option.mem_toList.mp first)
    cases other.symm.trans forClient
  · exact tool (List.ne_nil_of_mem later)

theorem dispatched : Dispatched s wishes m (posted s wishes m) (act s wishes m.action).events where
  asked := act_asked
  unasked := act_unasked
  client _ := act_client
  ordered := posted_ordered
  received id := by simp [mem_posted]
  shown data := by simp [mem_posted]
  answered := exists_heard_iff
  succeeded id value := by simp [mem_posted,replyOutcome_eq_response,eq_comm]
  failed id json := by simp [mem_posted,replyOutcome_eq_error,eq_comm]

end handles

/-- A message that cannot be read is an error, and nobody hears of it. One that can be read is none,
whatever the handlers say: it goes to its handler, and the replies to it tell of nothing else. -/
theorem handle_dispatches (s : Surroundings) (wishes : ViewMetadata) (message : Json) :
    (∀ fault, ViewMessage.decode message = .error fault →
      handle s wishes message = (.error (.view (.json fault)),[])) ∧
    ∀ m, ViewMessage.decode message = .ok m → m.ReadFrom message ∧
      ∃ replies events, handle s wishes message = (.ok replies,events) ∧
        Dispatched s wishes m replies events := by
  constructor
  · intro fault unread
    rw [handle,unread]
  · intro m read
    refine ⟨ViewMessage.readFrom_of_decode read,_,_,?_,dispatched⟩
    rw [handle,read]
    rfl

namespace Sample

def link : ViewMessage := (ViewMessage.of (.link "https://example.org/")).withId "7"

end Sample

/-- A link that no handler opens is an error, of which the view is told under the id of its message. -/
theorem handle_dispatches_link :
    let refusal := HostError.unsupported "open link"
    ViewMessage.decode Sample.link.encode = .ok Sample.link ∧
      Sample.link.ReadFrom Sample.link.encode ∧
      ∃ replies events, handle Bridge.Sample.surroundings ⟨none,none,.empty⟩ Sample.link.encode =
          (.ok replies,events) ∧
        events = [.openLink "https://example.org/"] ∧ .received "7" ∈ replies ∧
        .response "7" (.error (told refusal)) ∈ replies ∧ replies.length = 2 := by
  intro refusal
  have read : ViewMessage.decode Sample.link.encode = .ok Sample.link := by decide +kernel
  obtain ⟨parts,replies,events,handled,dispatched⟩ :=
    (handle_dispatches Bridge.Sample.surroundings ⟨none,none,.empty⟩ Sample.link.encode).2 _ read
  have received := (dispatched.received "7").mpr rfl
  have failed := (dispatched.failed "7" (told refusal)).mpr ⟨rfl,refusal,.link _,rfl⟩
  refine ⟨read,parts,replies,events,handled,?_,received,failed,?_⟩
  all_goals
    cases handled
    decide +kernel

end Dispatcher

end ToolView
