import Mathlib
import ToolView.Proofs.Server.Conversation

/-! Which calls are answered. An object with a method is a request where its id is a text or an
integer of 64 bits with a sign; with any other id it is read as a notification, which ignores the
id, and nothing is written for it. -/

namespace ToolView.Server

open Rpc

/-- A call of the current version with an id. -/
structure Calls (value id : Json) : Prop where
  current : value.get? "jsonrpc" = some (.str Rpc.version)
  called : ∃ method, value.get? "method" = some (.str method)
  named : value.get? "id" = some id

/-- A call is read as a request if its id is one, and as a notification otherwise. -/
theorem ofLine_call {line : List UInt8} {chars : List Char} (text : Utf8.decode line = .ok chars)
    {value : Json} (read : Json.readWithin? Json.depthLimit chars = some value) {id : Json}
    (calls : Calls value id) :
    (∀ i : Id, id = i.encode → ∃ r, r.id = i ∧ ofLine line = .ok (.request r)) ∧
    ((¬ ∃ i : Id, id = i.encode) → ∃ n, ofLine line = .ok (.notification n)) := by
  obtain ⟨current,⟨method,called⟩,named⟩ := calls
  obtain ⟨members,rfl⟩ : ∃ members, value = .obj members := by
    cases value with
    | obj members => exact ⟨members,rfl⟩
    | null | bool _ | num _ | str _ | arr _ => cases current
  obtain ⟨o,object⟩ := Json.object_of_readWithin? read
  rw [object] at current called named
  have line_eq : ofLine line = ofValue (.ofObject o) := by rw [ofLine_text text read,object]
  rw [line_eq,ofValue_current current]
  change o.get? "jsonrpc" = _ at current
  have version : Versioned o Rpc.version := by rw [Versioned,current,Option.getD_some]
  constructor
  · rintro i rfl
    have held : (Request.of i method (carried o "params")).HeldBy o := ⟨version,named,called,rfl⟩
    rw [Message.decode_request held]
    exact ⟨_,rfl,rfl⟩
  · intro other
    have noId : ¬ HasId o := by
      rintro ⟨i,there⟩
      exact other ⟨i,Option.some.inj (named.symm.trans there)⟩
    have held : (Notification.of method (carried o "params")).HeldBy o := ⟨version,called,rfl⟩
    rw [Message.decode_notification noId held]
    exact ⟨_,rfl⟩

/-- A call is answered, by one line with its id, exactly if its id is a text or an integer of 64
bits; with another id it is passed over in silence. A line that cannot be read is refused. -/
theorem call_answered_iff (p : Provider) {source : List Fill} {bytes : List UInt8}
    (supplies : Supplies source bytes) {before after : List (List UInt8)} {line : List UInt8}
    (cut : pieces bytes = before ++ line :: after) {chars : List Char}
    (text : Utf8.decode line = .ok chars) :
    p.service.output source = joinLines (before.flatMap p.service.answerTo) ++
        joinLines (p.service.answerTo line) ++ joinLines (after.flatMap p.service.answerTo) ∧
    (∀ value id, Json.readWithin? Json.depthLimit chars = some value → Calls value id →
      ((∃ answer failed, p.service.answerTo line = [answer] ∧ Answers id failed answer) ↔
        ∃ i : Id, id = i.encode) ∧
      ((¬ ∃ i : Id, id = i.encode) → p.service.answerTo line = [])) ∧
    (Json.readWithin? Json.depthLimit chars = none → isBlankLine line = false →
      ∃ answer, p.service.answerTo line = [answer] ∧ Answers .null true answer) := by
  have served := p.served_answerTo line
  refine ⟨?_,?_,?_⟩
  · rw [p.service.output_supplies supplies,cut,List.flatMap_append,List.flatMap_cons]
    simp only [joinLines,List.flatMap_append,List.append_assoc]
  · intro value id read calls
    obtain ⟨request,notification⟩ := ofLine_call text read calls
    have silent : (¬ ∃ i : Id, id = i.encode) → p.service.answerTo line = [] := by
      intro other
      obtain ⟨n,noted⟩ := notification other
      apply served.unasked _ noted
      intro r same
      cases same
    refine ⟨⟨?_,?_⟩,silent⟩
    · rintro ⟨answer,_,same,_⟩
      by_contra other
      cases (silent other).symm.trans same
    · rintro ⟨i,rfl⟩
      obtain ⟨r,rfl,asked⟩ := request i rfl
      exact served.asked r asked
  · intro unread held
    have refused : ofLine line = .error (.json DecodeError.malformed.message) := by
      rw [ofLine,text]
      dsimp only
      rw [unread]
    exact served.refused _ held refused

namespace Sample

def ping (id : String) : List Char :=
  ("\x7b\"jsonrpc\":\"2.0\",\"id\":" ++ id ++ ",\"method\":\"ping\"\x7d").toList

def pingOf (id : Json) : Json :=
  .obj [("id",id),("jsonrpc",.str Rpc.version),("method",.str "ping")]

theorem calls (id : Json) : Calls (pingOf id) id := ⟨rfl,⟨"ping",rfl⟩,rfl⟩

/-- The least integer beyond those of 64 bits with a sign. -/
def tooGreat : Json := .num (.int 9223372036854775808 ⟨by decide,by decide⟩)

end Sample

theorem call_answered_iff_negative :
    Supplies [.bytes (Utf8.encode (Sample.ping "-1"))] (Utf8.encode (Sample.ping "-1")) ∧
    pieces (Utf8.encode (Sample.ping "-1")) = [Utf8.encode (Sample.ping "-1")] ∧
    Json.readWithin? Json.depthLimit (Sample.ping "-1") = some (Sample.pingOf (.int64 (-1))) ∧
    Calls (Sample.pingOf (.int64 (-1))) (.int64 (-1)) ∧
    ∃ answer failed,
      (named "sample").service.answerTo (Utf8.encode (Sample.ping "-1")) = [answer] ∧
      Answers (.int64 (-1)) failed answer := by
  have given : Supplies _ (Utf8.encode (Sample.ping "-1")) := .whole (by decide +kernel)
  have cut : pieces (Utf8.encode (Sample.ping "-1")) = [] ++ [Utf8.encode (Sample.ping "-1")] := by
    decide +kernel
  have read : Json.readWithin? Json.depthLimit (Sample.ping "-1") =
      some (Sample.pingOf (.int64 (-1))) := by decide +kernel
  have calls := Sample.calls (.int64 (-1))
  have text := Utf8.decode_encode (Sample.ping "-1")
  have answered := (call_answered_iff (named "sample").provider given cut text).2.1 _ _ read calls
  exact ⟨given,cut,read,calls,answered.1.mpr ⟨.number (-1),rfl⟩⟩

/-- Nothing is written for a call whose id is too great. -/
theorem call_unanswered :
    Supplies [.bytes (Utf8.encode (Sample.ping "9223372036854775808"))]
      (Utf8.encode (Sample.ping "9223372036854775808")) ∧
    Json.readWithin? Json.depthLimit (Sample.ping "9223372036854775808") =
      some (Sample.pingOf Sample.tooGreat) ∧
    Calls (Sample.pingOf Sample.tooGreat) Sample.tooGreat ∧
    (named "sample").service.output [.bytes (Utf8.encode (Sample.ping "9223372036854775808"))] = [] := by
  have given : Supplies _ (Utf8.encode (Sample.ping "9223372036854775808")) :=
    .whole (by decide +kernel)
  refine ⟨given,by decide +kernel,Sample.calls _,?_⟩
  rw [Service.output_supplies _ given]
  decide +kernel

end ToolView.Server
