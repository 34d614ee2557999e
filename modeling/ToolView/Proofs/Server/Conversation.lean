import Mathlib
import ToolView.Server.Session
import ToolView.Proofs.Rpc.Framing

/-! What a server writes in a conversation. Each line of its input is answered on its own: nothing
that stands on one line changes what is written for another, and nothing ends the conversation but
the end of the input. -/

namespace ToolView.Server

open Rpc

def Service.output (service : Service) (source : List Fill) : List UInt8 :=
  (run service (.of source) (.of none)).2.written

/-- The lines that are written for a piece of the input between two ends of lines. -/
def Service.answerTo (service : Service) (piece : List UInt8) : List (List UInt8) :=
  if isBlankLine piece then [] else (reply? service (ofLine piece)).toList.map Message.bytes

def joinLines (lines : List (List UInt8)) : List UInt8 := lines.flatMap (· ++ [newline])

namespace Service

theorem replies_eq (service : Service) (lines : List (List UInt8)) :
    (replies service ((lines.filter fun line => !isBlankLine line).map ofLine)).flatMap
      Writer.bytesOf = joinLines (lines.flatMap service.answerTo) := by
  induction lines with
  | nil => rfl
  | cons line lines ih =>
    rw [List.flatMap_cons,joinLines,List.flatMap_append,← joinLines,← joinLines,← ih]
    cases blank : isBlankLine line with
    | true =>
      rw [answerTo,if_pos blank,List.filter_cons_of_neg (by simp [blank])]
      rfl
    | false =>
      rw [answerTo,if_neg (by simp [blank]),List.filter_cons_of_pos (by simp [blank]),
        List.map_cons,replies,List.filterMap_cons]
      cases reply? service (ofLine line) with
      | none => rfl
      | some m =>
        change Writer.bytesOf m ++ _ = (m.bytes ++ [newline] ++ []) ++ _
        rw [List.append_nil]
        rfl

/-- The conversation goes on to the end of the input, and each piece of that is answered in turn. -/
theorem run_supplies (service : Service) {source : List Fill} {bytes : List UInt8}
    (supplies : Supplies source bytes) :
    run service (.of source) (.of none) =
      (.ok (),⟨joinLines ((pieces bytes).flatMap service.answerTo),none⟩) := by
  rw [run,Writer.of,Writer.writeAll_unlimited,Reader.items_of_supplies supplies,heldLines,
    replies_eq,List.nil_append]
  rfl

theorem output_supplies (service : Service) {source : List Fill} {bytes : List UInt8}
    (supplies : Supplies source bytes) :
    service.output source = joinLines ((pieces bytes).flatMap service.answerTo) := by
  rw [output,run_supplies service supplies]

theorem output_append (service : Service) {x y z : List Fill} {a b : List UInt8}
    (first : Supplies x a) (second : Supplies y b) (both : Supplies z (a ++ newline :: b)) :
    service.output z = service.output x ++ service.output y := by
  rw [output_supplies service first,output_supplies service second,output_supplies service both,
    pieces_append,List.flatMap_append,joinLines,List.flatMap_append]
  rfl

theorem answerTo_of_reply (service : Service) {piece : List UInt8} (held : isBlankLine piece = false)
    {m : Message} (reply : reply? service (ofLine piece) = some m) :
    service.answerTo piece = [m.bytes] := by
  rw [answerTo,if_neg (by simp [held]),reply,Option.toList_some,List.map_singleton]

end Service

/-- A line that answers: an object of the current version with this id, and with an error or with
a result. -/
def Answers (id : Json) (failed : Bool) (line : List UInt8) : Prop :=
  ∃ members, Spells line members ∧ plain? "jsonrpc" members = some (.str Rpc.version) ∧
    plain? "id" members = some id ∧ (Entries.get? "result" members).isSome = !failed ∧
    (Entries.get? "error" members).isSome = failed

private theorem answers_of_written {m : Message} {ms : List (String × Option Json)}
    (written : m.written = .inOrder ms) (distinct : (ms.map (·.1)).Nodup) {json id : Json}
    {failed : Bool} (current : Entries.get? "jsonrpc" ms = some (some (.str Rpc.version)))
    (named : Entries.get? "id" ms = some (some json)) (read : json.draft.toJson? 0 = some id)
    (result : (Entries.get? "result" ms).join.isSome = !failed)
    (error : (Entries.get? "error" ms).join.isSome = failed) : Answers id failed m.bytes := by
  obtain ⟨members,spells,found⟩ := Message.spells written distinct
  refine ⟨members,spells,?_,?_,?_,?_⟩
  · rw [plain?,found,current]
    rfl
  · rw [plain?,found,named]
    exact read
  · rw [found,Option.isSome_map,result]
  · rw [found,Option.isSome_map,error]

theorem Provider.answers_respond (p : Provider) (r : Request) :
    ∃ failed, Answers r.id.encode failed (Message.response (p.respond r)).bytes := by
  have distinct (response : Response) := response.distinct (.inOrder ·.members)
  have read := r.id.toJson?_draft
  rw [respond]
  cases p.result r.method r.params with
  | ok value => exact ⟨false,answers_of_written rfl (distinct _) rfl rfl read rfl rfl⟩
  | error e => exact ⟨true,answers_of_written rfl (distinct _) rfl rfl read rfl rfl⟩

theorem answers_failure (e : ErrorData) :
    Answers .null true (Message.failure ⟨Rpc.version,none,e⟩).bytes := by
  have distinct (failure : Failure) := failure.distinct (.inOrder ·.members)
  exact answers_of_written rfl (distinct _) rfl rfl rfl rfl rfl

/-- The lines that a piece of the input must be answered with. -/
structure Served (piece : List UInt8) (lines : List (List UInt8)) : Prop where
  blank : isBlankLine piece = true → lines = []
  unasked : ∀ m, ofLine piece = .ok m → (∀ r, m ≠ .request r) → lines = []
  asked : ∀ r, ofLine piece = .ok (.request r) →
    ∃ line failed, lines = [line] ∧ Answers r.id.encode failed line
  refused : ∀ e, isBlankLine piece = false → ofLine piece = .error e →
    ∃ line, lines = [line] ∧ Answers .null true line

theorem Provider.served_answerTo (p : Provider) (piece : List UInt8) :
    Served piece (p.service.answerTo piece) where
  blank blank := by rw [Service.answerTo,if_pos blank]
  unasked m read other := by
    rw [Service.answerTo,read]
    cases m with
    | request r => exact absurd rfl (other r)
    | response _ | notification _ | failure _ | none => exact ite_self _
  asked r read := by
    have held : isBlankLine piece = false := by
      apply Bool.eq_false_iff.mpr
      intro blank
      cases (ofLine_blank blank).symm.trans read
    obtain ⟨failed,answers⟩ := p.answers_respond r
    have reply : reply? p.service (ofLine piece) = some (.response (p.respond r)) := by
      rw [read]
      rfl
    exact ⟨_,failed,p.service.answerTo_of_reply held reply,answers⟩
  refused e held read := by
    have reply : reply? p.service (ofLine piece) =
        some (.failure ⟨Rpc.version,none,e.errorData⟩) := by
      rw [read]
      rfl
    exact ⟨_,p.service.answerTo_of_reply held reply,answers_failure e.errorData⟩

private theorem answers_of_mem {p : Provider} {piece line : List UInt8}
    (member : line ∈ p.service.answerTo piece) : ∃ id failed, Answers id failed line := by
  have served := p.served_answerTo piece
  cases blank : isBlankLine piece with
  | true =>
    rw [served.blank blank] at member
    cases member
  | false =>
    cases read : ofLine piece with
    | error e =>
      obtain ⟨answer,same,answers⟩ := served.refused e blank read
      rw [same,List.mem_singleton] at member
      exact ⟨.null,true,member ▸ answers⟩
    | ok m =>
      by_cases asks : ∃ r, m = .request r
      · obtain ⟨r,rfl⟩ := asks
        obtain ⟨answer,failed,same,answers⟩ := served.asked r read
        rw [same,List.mem_singleton] at member
        exact ⟨r.id.encode,failed,member ▸ answers⟩
      · rw [served.unasked m read fun r same => asks ⟨r,same⟩] at member
        cases member

/-- A conversation is held line by line, whoever provides the answers. It goes on to the end of the
input, each line is answered in its turn by what it says alone, and what comes after an end of a
line is answered as if nothing came before. -/
theorem line_by_line (p : Provider) {x : List Fill} {a : List UInt8} (supplies : Supplies x a) :
    (run p.service (.of x) (.of none)).1 = .ok () ∧
    (∃ answers, List.Forall₂ Served (pieces a) answers ∧
      p.service.output x = joinLines answers.flatten ∧
      ∀ line ∈ answers.flatten, ∃ id failed, Answers id failed line) ∧
    ∀ y z b, Supplies y b → Supplies z (a ++ newline :: b) →
      p.service.output z = p.service.output x ++ p.service.output y := by
  refine ⟨by rw [p.service.run_supplies supplies],?_,fun y z b => p.service.output_append supplies⟩
  refine ⟨(pieces a).map p.service.answerTo,?_,p.service.output_supplies supplies,?_⟩
  · rw [List.forall₂_map_right_iff,List.forall₂_same]
    exact fun piece _ => p.served_answerTo piece
  · intro line member
    obtain ⟨piece,_,inside⟩ := List.mem_flatMap.mp member
    exact answers_of_mem inside

namespace Sample

def input : List UInt8 :=
  Utf8.encode ("\x7b\"jsonrpc\":\"2.0\",\"method\":\"ping\"\x7d\n \n" ++
    "\x7b\"jsonrpc\":\"2.0\",\"id\":1,\"method\":\"ping\"\x7d").toList

def answered : List UInt8 :=
  Utf8.encode "\x7b\"jsonrpc\":\"2.0\",\"id\":1,\"result\":\x7b\x7d\x7d\n".toList

end Sample

theorem line_by_line_twice : Supplies [.bytes Sample.input] Sample.input ∧
    (named "sample").service.output [.bytes Sample.input] = Sample.answered ∧
    (named "sample").service.output [.bytes (Sample.input ++ newline :: Sample.input)] =
      Sample.answered ++ Sample.answered := by
  have once : Supplies [.bytes Sample.input] Sample.input := .whole (by decide +kernel)
  have twice := Supplies.whole (List.append_ne_nil_of_right_ne_nil Sample.input
    (List.cons_ne_nil newline Sample.input))
  have answered : (named "sample").service.output [.bytes Sample.input] = Sample.answered := by
    rw [Service.output_supplies _ once]
    decide +kernel
  have both := (line_by_line (named "sample").provider once).2.2 _ _ _ once twice
  change (named "sample").service.output _ =
    (named "sample").service.output _ ++ (named "sample").service.output _ at both
  rw [answered] at both
  exact ⟨once,answered,both⟩

end ToolView.Server
