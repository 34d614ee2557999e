import Mathlib
import ToolView.Rpc.Writer
import ToolView.Proofs.Bytes
import ToolView.Proofs.Json.Written
import ToolView.Proofs.Rpc.Envelope

/-! What stands on a line. A message is written as one object, its members in the order of their
declaration, and control characters are escaped, so that no line ends inside it. A line of blanks
is no message. -/

namespace ToolView

namespace Json

theorem sorted_inOrder (ms : List (String × Option Json)) :
    (inOrder ms).sorted = record (ms.map fun m => (m.1,m.2.map sorted)) := by
  have inside : sortedMembers (ms.filterMap fun m => m.2.map (m.1,·)) =
      (ms.map fun m => (m.1,m.2.map sorted)).filterMap fun m => m.2.map (m.1,·) := by
    induction ms with
    | nil => rfl
    | cons m ms ih =>
      obtain ⟨name,value⟩ := m
      cases value with
      | none => exact ih
      | some value =>
        change (name,value.sorted) :: sortedMembers _ = _
        rw [ih]
        rfl
  rw [inOrder,sorted,inside]
  rfl

theorem integral_inOrder {ms : List (String × Option Json)}
    (integral : ∀ m ∈ ms, ∀ j ∈ m.2, Integral j) : Integral (inOrder ms) := by
  intro x member
  rw [inOrder,parts,List.mem_cons] at member
  rcases member with same | member
  · cases same
  · induction ms with
    | nil => cases member
    | cons m ms ih =>
      obtain ⟨first,rest⟩ := List.forall_mem_cons.mp integral
      obtain ⟨name,value⟩ := m
      cases value with
      | none => exact ih rest member
      | some value =>
        rcases List.mem_append.mp member with inside | inside
        · exact first value rfl x inside
        · exact ih rest inside

end Json

namespace Rpc

namespace Message

def written : Message → Json
  | .request r => .inOrder r.members
  | .response r => .inOrder (r.membersWith (.inOrder ·.members))
  | .notification n => .inOrder n.members
  | .failure f => .inOrder (f.membersWith (.inOrder ·.members))
  | .none => .null

theorem line_eq (m : Message) : m.line = m.written.write := by
  cases m <;> rfl

def bytes (m : Message) : List UInt8 := Utf8.encode m.line.toList

theorem decode_bytes (m : Message) : Utf8.decode m.bytes = .ok m.written.writeChars := by
  rw [bytes,Utf8.decode_encode,line_eq,Json.write,String.toList_ofList]

theorem newline_not_mem_bytes (m : Message) : newline ∉ m.bytes := by
  rw [bytes,line_eq,Json.write,String.toList_ofList]
  intro member
  have inside := Utf8.ofNat_mem_of_encode member (by decide)
  exact absurd (Json.printable_writeChars m.written _ inside) (by decide)

theorem sorted_id (id : Id) : id.encode.sorted = id.encode := by
  cases id <;> rfl

private theorem map_sorted {value : Option Json} (ordered : ∀ j ∈ value.toList, j.Ordered) :
    value.map Json.sorted = value := by
  cases value with
  | none => rfl
  | some j => exact congrArg some (Json.sorted_eq_self j (ordered j (List.mem_singleton_self j)))

private theorem sorted_error {e : ErrorData} (ordered : ∀ j ∈ e.data.toList, j.Ordered) :
    (Json.inOrder e.members).sorted = e.encode := by
  rw [Json.sorted_inOrder,ErrorData.members]
  simp only [List.map_cons,List.map_nil,map_sorted ordered]
  rfl

/-- Read back, the members are sorted, and so are those of the message's own form. -/
theorem sorted_written {m : Message} (ordered : ∀ j ∈ m.values, j.Ordered) :
    m.written.sorted = m.encode := by
  cases m with
  | request r =>
    rw [written,Json.sorted_inOrder,Request.members]
    simp only [List.map_cons,List.map_nil,Option.map_some,sorted_id,map_sorted ordered]
    rfl
  | response r =>
    obtain ⟨result,error⟩ := List.forall_mem_append.mp ordered
    have sorted : (r.error.map fun e => Json.inOrder e.members).map Json.sorted =
        r.error.map ErrorData.encode := by
      cases there : r.error with
      | none => rfl
      | some e =>
        rw [there] at error
        exact congrArg some (sorted_error error)
    rw [written,Json.sorted_inOrder,Response.membersWith]
    simp only [List.map_cons,List.map_nil,Option.map_some,sorted_id,map_sorted result,sorted]
    rfl
  | notification n =>
    rw [written,Json.sorted_inOrder,Notification.members]
    simp only [List.map_cons,List.map_nil,Option.map_some,map_sorted ordered]
    rfl
  | failure f =>
    have sorted : ((f.id.map Id.encode).getD .null).sorted = (f.id.map Id.encode).getD .null := by
      cases f.id with
      | none => rfl
      | some id => exact sorted_id id
    rw [written,Json.sorted_inOrder,Failure.membersWith]
    simp only [List.map_cons,List.map_nil,Option.map_some,sorted,sorted_error ordered]
    rfl
  | none => rfl

private theorem integral_str (s : String) : Json.Integral (.str s) := by
  simp [Json.Integral,Json.parts]

theorem integral_id (id : Id) : id.encode.Integral := by
  cases id <;> simp [Id.encode,Json.int64,Json.Integral,Json.parts]

private theorem integral_error {e : ErrorData} (integral : ∀ j ∈ e.data.toList, j.Integral) :
    (Json.inOrder e.members).Integral := by
  apply Json.integral_inOrder
  have code : Json.Integral (.int32 e.code) := by simp [Json.int32,Json.Integral,Json.parts]
  simpa [ErrorData.members,integral_str,code] using integral

theorem integral_written {m : Message} (integral : ∀ j ∈ m.values, j.Integral) :
    m.written.Integral := by
  cases m with
  | request r =>
    apply Json.integral_inOrder
    simpa [Request.members,integral_str,integral_id,values] using integral
  | response r =>
    obtain ⟨result,error⟩ := List.forall_mem_append.mp integral
    apply Json.integral_inOrder
    have inside : ∀ e, r.error = some e → (Json.inOrder e.members).Integral := by
      intro e there
      rw [there] at error
      exact integral_error error
    simpa [Response.membersWith,integral_str,integral_id] using ⟨by simpa using result,inside⟩
  | notification n =>
    apply Json.integral_inOrder
    simpa [Notification.members,integral_str,values] using integral
  | failure f =>
    apply Json.integral_inOrder
    have id : ((f.id.map Id.encode).getD .null).Integral := by
      cases f.id with
      | none => simp [Json.Integral,Json.parts]
      | some id => exact integral_id id
    simp [Failure.membersWith,integral_str,id,integral_error integral]
  | none => simp [written,Json.Integral,Json.parts]

private theorem version_encode {m : Message} (current : m.Current) :
    ∃ o : Object, m.encode = .ofObject o ∧ o.get? "jsonrpc" = some (.str version) := by
  cases current with
  | @request r current =>
    exact ⟨Json.members r.members,rfl,current ▸ Json.get?_members _ r.distinct "jsonrpc"⟩
  | @response r current =>
    exact ⟨_,rfl,current ▸ Json.get?_members _ (r.distinct ErrorData.encode) "jsonrpc"⟩
  | @notification n current =>
    exact ⟨_,rfl,current ▸ Json.get?_members _ n.distinct "jsonrpc"⟩
  | @failure f current =>
    exact ⟨_,rfl,current ▸ Json.get?_members _ (f.distinct ErrorData.encode) "jsonrpc"⟩

end Message

theorem ofValue_current {o : Object} (current : o.get? "jsonrpc" = some (.str version)) :
    ofValue (.ofObject o) =
      (Message.decode (.ofObject o)).mapError fun cause => .json cause.message := by
  rw [ofValue,Json.object?_ofObject]
  dsimp only
  rw [current,if_neg]
  exact not_not.mpr rfl

theorem ofLine_text {line : List UInt8} {chars : List Char} (decoded : Utf8.decode line = .ok chars)
    {value : Json} (read : Json.readWithin? Json.depthLimit chars = some value) :
    ofLine line = ofValue value := by
  rw [ofLine,decoded]
  dsimp only
  rw [read]

/-- The line is the text of one object and of nothing else. Its members stand in the order of the
text, each under a key of its own. -/
def Spells (line : List UInt8) (members : List (String × Json.Draft)) : Prop :=
  newline ∉ line ∧ (members.map (·.1)).Nodup ∧ (Json.Draft.obj members).isWhole = true ∧
    ∃ chars, Utf8.decode line = .ok chars ∧ Json.Draft.read chars = (.obj members,false)

/-- The value of a member that is neither an array nor an object. -/
def plain? (key : String) (members : List (String × Json.Draft)) : Option Json :=
  (Entries.get? key members).bind (·.toJson? 0)

theorem Message.spells {m : Message} {ms : List (String × Option Json)}
    (written : m.written = .inOrder ms) (distinct : (ms.map (·.1)).Nodup) :
    ∃ members, Spells m.bytes members ∧
      ∀ key, Entries.get? key members = (Entries.get? key ms).join.map Json.draft := by
  refine ⟨Json.draftOfMembers (ms.filterMap fun m => m.2.map (m.1,·)),?_,?_⟩
  · refine ⟨m.newline_not_mem_bytes,?_,Json.membersWhole_draft _,_,m.decode_bytes,?_⟩
    · rw [Json.keys_draft]
      exact distinct.sublist (Json.keys_sublist ms)
    · rw [written]
      exact Json.Draft.read_writeChars (.inOrder ms)
  · intro key
    rw [Json.get?_draft,Json.get?_filterMap ms distinct]

theorem Id.toJson?_draft (id : Id) : id.encode.draft.toJson? 0 = some id.encode := by
  have flat : id.encode.depth ≤ 0 := by cases id <;> exact le_refl 0
  rw [Json.toJson?_draft _ (Message.integral_id id) flat,Message.sorted_id]

/-- A message that comes back from its line: of the current version, without a value that is `null`,
with no numbers but integers, and not nested deeper than a reader follows. -/
structure Message.Framed (m : Message) : Prop where
  current : m.Current
  bare : ∀ j ∈ m.values, j ≠ .null
  ordered : ∀ j ∈ m.values, j.Ordered
  integral : ∀ j ∈ m.values, j.Integral
  shallow : m.written.depth ≤ Json.depthLimit

theorem ofLine_bytes {m : Message} (framed : m.Framed) : ofLine m.bytes = .ok m := by
  have read := Json.readWithin?_writeChars (Message.integral_written framed.integral) framed.shallow
  obtain ⟨o,object,current⟩ := Message.version_encode framed.current
  have decoded := Message.decode_encode framed.current.anonymous framed.bare
  rw [ofLine_text m.decode_bytes read,Message.sorted_written framed.ordered,object,
    ofValue_current current,← object,decoded]
  rfl

private theorem read_failed (cs : List Char) : Json.Scan.failed.read cs = [] := by
  induction cs with
  | nil => rfl
  | cons c cs ih => exact ih

/-- All blanks stand between tokens but the form feed, which is a fault. -/
private theorem read_blank {line : List UInt8} (blank : isBlankLine line) :
    Json.Scan.between.read (line.map fun b => Char.ofNat b.toNat) ∈ [[],[.fault]] := by
  induction line with
  | nil => exact List.mem_cons_self
  | cons b line ih =>
    rw [isBlankLine,List.all_cons,Bool.and_eq_true] at blank
    obtain ⟨first,rest⟩ := blank
    simp only [Text.isBlankByte,Bool.or_eq_true,beq_iff_eq,or_assoc] at first
    rcases first with rfl | rfl | rfl | rfl | rfl
    · exact ih rest
    · exact ih rest
    · have fault : Json.Scan.between.read ((12 :: line).map fun b => Char.ofNat b.toNat) =
          .fault :: Json.Scan.failed.read (line.map fun b => Char.ofNat b.toNat) := rfl
      rw [fault,read_failed]
      exact .tail _ List.mem_cons_self
    · exact ih rest
    · exact ih rest

theorem ofLine_blank {line : List UInt8} (blank : isBlankLine line) :
    ofLine line = .error (.json DecodeError.malformed.message) := by
  have ascii : ∀ b ∈ line, b < 128 := by
    intro b member
    have byte := List.all_eq_true.mp blank b member
    simp only [Text.isBlankByte,Bool.or_eq_true,beq_iff_eq,or_assoc] at byte
    rcases byte with rfl | rfl | rfl | rfl | rfl <;> decide
  have decoded : Utf8.decode line = .ok (line.map fun b => Char.ofNat b.toNat) := by
    conv_lhs => rw [← Utf8.encode_ascii ascii]
    exact Utf8.decode_encode _
  have broken : Json.Draft.read (line.map fun b => Char.ofNat b.toNat) = (.broken,false) := by
    have tokens := read_blank blank
    rw [Json.Draft.read,Json.Scan.tokens_eq]
    simp only [List.mem_cons,List.not_mem_nil,or_false] at tokens
    rcases tokens with none | fault
    · rw [none]; rfl
    · rw [fault]; rfl
  rw [ofLine,decoded]
  dsimp only
  rw [Json.readWithin?,broken]
  rfl

end Rpc

end ToolView
