import Mathlib
import ToolView.Proofs.Rpc.Line
import ToolView.Proofs.Rpc.Stream

/-! What one side writes the other side reads: a message is one line, the end of a line is never
inside it, and reading goes line by line. -/

namespace ToolView.Rpc

theorem Writer.writeAll_unlimited (written : List UInt8) (ms : List Message) :
    Writer.writeAll ⟨written,none⟩ ms = (.ok (),⟨written ++ ms.flatMap bytesOf,none⟩) := by
  induction ms generalizing written with
  | nil => rw [List.flatMap_nil,List.append_nil]; rfl
  | cons m ms ih =>
    have step : Writer.writeAll ⟨written,none⟩ (m :: ms) =
        Writer.writeAll ⟨written ++ bytesOf m,none⟩ ms := rfl
    rw [step,ih,List.flatMap_cons,List.append_assoc]

/-- The lines of written messages, one after the other. -/
theorem heldLines_written {ms : List Message} (held : ∀ m ∈ ms, isBlankLine m.bytes = false) :
    heldLines (ms.flatMap Writer.bytesOf) = ms.map Message.bytes := by
  induction ms with
  | nil => rfl
  | cons m ms ih =>
    obtain ⟨first,rest⟩ := List.forall_mem_cons.mp held
    have line : (m :: ms).flatMap Writer.bytesOf =
        m.bytes ++ newline :: ms.flatMap Writer.bytesOf := by
      rw [List.flatMap_cons,Writer.bytesOf,List.append_assoc]
      rfl
    rw [line,heldLines_append,heldLines_of_not_mem m.newline_not_mem_bytes,first,ih rest]
    rfl

theorem Message.Framed.held {m : Message} (framed : m.Framed) : isBlankLine m.bytes = false := by
  cases blank : isBlankLine m.bytes with
  | false => rfl
  | true => cases (ofLine_blank blank).symm.trans (ofLine_bytes framed)

/-- Messages that are written one after the other are read one after the other, whatever texts
are in them and however their bytes are handed out. -/
theorem Reader.items_of_written {ms : List Message} (framed : ∀ m ∈ ms, m.Framed) :
    (Writer.of none).writeAll ms = (.ok (),⟨ms.flatMap Writer.bytesOf,none⟩) ∧
      ∀ source, Supplies source (ms.flatMap Writer.bytesOf) →
        (Reader.of source).items = ms.map .ok := by
  refine ⟨Writer.writeAll_unlimited [] ms,?_⟩
  intro source supplies
  rw [items_of_supplies supplies,heldLines_written fun m member => (framed m member).held,
    List.map_map]
  apply List.map_congr_left
  intro m member
  exact ofLine_bytes (framed m member)

namespace Sample

def text : String := "a\n\"\\\x01é\u2028"

def params : List (String × Json) := [("A",.int64 (-5)),(text,.arr [.str text,.null])]

def messages : List Message :=
  [.request (.of (.text text) text (some (.obj params))),
    .failure ⟨version,none,⟨ErrorData.parseError,text,some (.arr [.obj [],.bool true])⟩⟩]

private theorem framed_request :
    (Message.request (.of (.text text) text (some (.obj params)))).Framed where
  current := .request rfl
  bare := by simp [Request.of,Message.values]
  ordered := by
    have order : Entries.Ascending params := by decide +kernel
    intro j carried members inside
    obtain rfl := List.mem_singleton.mp carried
    have same : members = params := by
      simpa [Json.parts,params,Json.partsOfMembers,Json.partsOfItems,Json.int64] using inside
    rw [same]
    exact order
  integral := by
    simp [Request.of,Message.values,params,Json.Integral,Json.parts,Json.partsOfMembers,
      Json.partsOfItems,Json.int64]
  shallow := by decide +kernel

private theorem framed_failure : (Message.failure ⟨version,none,
    ⟨ErrorData.parseError,text,some (.arr [.obj [],.bool true])⟩⟩).Framed where
  current := .failure rfl rfl
  bare := by simp [Message.values]
  ordered := by
    simp [Message.values,Json.Ordered,Json.parts,Json.partsOfMembers,Json.partsOfItems]
  integral := by
    simp [Message.values,Json.Integral,Json.parts,Json.partsOfMembers,Json.partsOfItems]
  shallow := by decide +kernel

theorem framed : ∀ m ∈ messages, m.Framed := by
  simp only [messages,List.forall_mem_cons]
  exact ⟨framed_request,framed_failure,List.forall_mem_nil _⟩

end Sample

/-- Texts with ends of lines in them come back, each message in its place. -/
theorem Reader.items_of_written_texts : (∀ m ∈ Sample.messages, m.Framed) ∧
    (Reader.of [.pending,.bytes (Sample.messages.flatMap Writer.bytesOf)]).items =
      Sample.messages.map .ok := by
  have some : Sample.messages.flatMap Writer.bytesOf ≠ [] := by decide +kernel
  have supplies := Supplies.pending (.whole some)
  exact ⟨Sample.framed,(items_of_written Sample.framed).2 _ supplies⟩

end ToolView.Rpc
