import Mathlib
import ToolView.Proofs.Bridge.Tools

/-! What the bridge gives back for a message. A request has one reply, whatever becomes of it; and a
request that fails leaves the bridge as it was, but for a list of tools that was taken on the way. -/

namespace ToolView.Bridge

/-- A response as it is written: it names the version and this id, and holds an error or a result,
never both. -/
structure Settles (id : Json) (failed : Bool) (response : Json) : Prop where
  current : response.get? "jsonrpc" = some (.str "2.0")
  named : response.get? "id" = some id
  result : (response.get? "result").isSome = !failed
  error : (response.get? "error").isSome = failed

theorem responseTo_settles (id : Rpc.Id) (reply : Except Rpc.ErrorData Json) :
    Settles id.encode (responseTo id reply).isError (responseTo id reply).encode := by
  have distinct := (responseTo id reply).distinct Rpc.ErrorData.encode
  have member (key : String) := Json.get?_record distinct key
  cases reply with
  | ok result =>
    refine ⟨member "jsonrpc",member "id",?_,?_⟩
    · exact congrArg Option.isSome (member "result")
    · exact congrArg Option.isSome (member "error")
  | error e =>
    refine ⟨member "jsonrpc",member "id",?_,?_⟩
    · exact congrArg Option.isSome (member "result")
    · exact congrArg Option.isSome (member "error")

/-- A bridge that has been left as it was, but for the tools, which may have become known. -/
def LeftBy (s : Surroundings) (b after : Bridge) : Prop :=
  after = b ∨ b.tools = none ∧ ∃ tools, s.client.listTools = .ok tools ∧
    after = { b with tools := some tools }

/-- Whatever a request does to a bridge besides, it does only where it succeeds. -/
theorem request_failed {s : Surroundings} {b : Bridge} {r : Rpc.Request} {e : Rpc.ErrorData}
    (alive : b.phase ≠ .closed) (failed : (b.request s r).reply = .error e) :
    ∃ tools, (b.request s r).bridge = { b with tools := tools } := by
  have answers := request_answers s b r
  generalize b.request s r = answered at answers failed
  cases answers with
  | plain reply tools events other => exact ⟨tools,rfl⟩
  | introduced p method =>
    obtain ⟨refusal,refused⟩ | ⟨-,result,-,accepted⟩ := introduce_shape b p alive
    · rw [refused]
      exact ⟨b.tools,rfl⟩
    · rw [accepted] at failed
      cases failed
  | granted mode events method => cases failed

namespace Moment

variable {m : Moment} {r : Rpc.Request}

private theorem lists_of_list? {tools : List Tool} (listed : m.list? = some tools) :
    m.surroundings.client.listTools = .ok tools := by
  rw [list?] at listed
  split_ifs at listed
  cases lists : m.surroundings.client.listTools with
  | ok given => rw [lists] at listed; cases listed; rfl
  | error e => rw [lists] at listed; cases listed

theorem leftBy_of_failed (asks : m.request? = some r) {e : Rpc.ErrorData}
    (failed : (m.before.request m.surroundings r).reply = .error e) :
    LeftBy m.surroundings m.before m.after := by
  obtain ⟨tools,left⟩ := request_failed (request?_eq_some.mp asks).1 failed
  have same : m.after = { m.before with tools := tools } := by
    rw [after,output_request asks]
    exact left
  have kept (unchanged : m.before.tools = tools) : LeftBy m.surroundings m.before m.after :=
    .inl (by rw [same,← unchanged])
  have taken : m.after.tools = tools := congrArg Bridge.tools same
  rw [m.after_tools] at taken
  cases known : m.before.tools with
  | some held => exact kept (by rw [← taken,known]; rfl)
  | none =>
    cases listed : m.list? with
    | none => exact kept (by rw [← taken,known,listed]; rfl)
    | some given =>
      rw [known,listed] at taken
      exact .inr ⟨known,given,lists_of_list? listed,by rw [same,← taken]; rfl⟩

end Moment

structure Handled (s : Surroundings) (b : Bridge) (message : Json) (out : Output) : Prop where
  failed : ∀ e, out.messages = .error e → ∃ cause,
    Rpc.Message.decode message = .error cause ∧ e = .invalidMessage cause
  unread : ∀ cause, Rpc.Message.decode message = .error cause →
    out = ⟨.error (.invalidMessage cause),b,[]⟩
  request : ∀ r, Rpc.Message.decode message = .ok (.request r) →
    message.part? 1 "id" = some r.id.encode ∧ ∃ reply, out.messages = .ok [.response reply] ∧
      Settles r.id.encode reply.isError reply.encode ∧ (reply.isError → LeftBy s b out.bridge)
  notification : ∀ n, Rpc.Message.decode message = .ok (.notification n) →
    ∃ ns : List Rpc.Notification, out.messages = .ok (ns.map .notification)
  response : ∀ r, Rpc.Message.decode message = .ok (.response r) → out.messages = .ok []
  failure : ∀ f, Rpc.Message.decode message = .ok (.failure f) → out.messages = .ok []
  nothing : Rpc.Message.decode message = .ok .none → out.messages = .ok []

private theorem handled (s : Surroundings) {b : Bridge} (message : Json) (alive : b.phase ≠ .closed) :
    Handled s b message (b.handleMessage s message) where
  failed e failed := by
    cases said : Rpc.Message.decode message with
    | error cause =>
      simp only [handleMessage,if_neg alive,said] at failed
      exact ⟨cause,rfl,(Except.error.inj failed).symm⟩
    | ok received =>
      simp only [handleMessage,if_neg alive,said] at failed
      cases received <;> cases failed
  unread cause said := by simp only [handleMessage,if_neg alive,said]
  request r said := by
    let m : Moment := ⟨b,s,.message message⟩
    have asks : m.request? = some r := Moment.request?_eq_some.mpr ⟨alive,message,rfl,said⟩
    refine ⟨Rpc.Request.id_of_decode (Rpc.Message.decode_eq_ok.mp said),_,
      congrArg Output.messages (Moment.output_request asks),responseTo_settles r.id _,?_⟩
    intro failed
    change LeftBy m.surroundings m.before m.after
    cases replied : (b.request s r).reply with
    | ok result =>
      change (responseTo r.id (b.request s r).reply).isError = true at failed
      rw [replied] at failed
      cases failed
    | error e => exact Moment.leftBy_of_failed asks replied
  notification n said := ⟨(b.notification n).1,by simp only [handleMessage,if_neg alive,said]⟩
  response r said := by simp only [handleMessage,if_neg alive,said]
  failure f said := by simp only [handleMessage,if_neg alive,said]
  nothing said := by simp only [handleMessage,if_neg alive,said]

/-- A closed bridge takes no message and stays as it is; any other one has one reply to a request,
none to all else, and is changed by no request that it answers with an error. -/
theorem handleMessage_handles (s : Surroundings) (b : Bridge) (message : Json) :
    (b.phase = .closed → b.handleMessage s message = ⟨.error .closed,b,[]⟩) ∧
      (b.phase ≠ .closed → Handled s b message (b.handleMessage s message)) :=
  ⟨fun closed => if_pos closed,handled s message⟩

/-- A call of a tool that the client does not list is answered with an error that has the id of the
call, and leaves nothing but the list behind. -/
theorem handleMessage_handles_unlisted :
    let message := (Sample.calls "wipe").encode
    let out := Sample.listening.handleMessage Sample.surroundings message
    let e := Rpc.ErrorData.plain (-32602) "Tool not found: wipe"
    Sample.listening.phase ≠ .closed ∧
      Rpc.Message.decode message = .ok (.request (Sample.calls "wipe")) ∧
      out.messages = .ok [.response (.failure (.number 2) e)] ∧
      Settles (Rpc.Id.number 2).encode true (Rpc.Response.failure (.number 2) e).encode ∧
      LeftBy Sample.surroundings Sample.listening out.bridge ∧
      Sample.listening.tools = none ∧ out.bridge.tools = some [] := by
  intro message out e
  have alive : Sample.listening.phase ≠ .closed := by decide +kernel
  have said : Rpc.Message.decode message = .ok (.request (Sample.calls "wipe")) := rfl
  have failed : out.messages = .ok [.response (.failure (.number 2) e)] := by decide +kernel
  have taken : out.bridge.tools = some [] := by decide +kernel
  have handled := (handleMessage_handles Sample.surroundings Sample.listening message).2 alive
  obtain ⟨-,reply,sent,settles,left⟩ := handled.request _ said
  cases failed.symm.trans sent
  exact ⟨alive,said,failed,settles,left rfl,rfl,taken⟩

end ToolView.Bridge
