import Mathlib
import ToolView.Rpc.Reader
import ToolView.Proofs.Text

/-! What a reader makes of its input. However the bytes are cut into fills, and however often the
reader has to wait, it tells of the lines that hold something, one by one. The invariant ties the
open line and the buffer to the bytes that are still to come: put together they have the lines that
are still to be told of. -/

namespace ToolView.Rpc

/-- The fills bring these bytes, some at a time, with waits in between. -/
inductive Supplies : List Fill → List UInt8 → Prop
  | ended : Supplies [] []
  | pending {source : List Fill} {bytes : List UInt8} (later : Supplies source bytes) :
      Supplies (.pending :: source) bytes
  | bytes {front : List UInt8} (some : front ≠ []) {source : List Fill} {bytes : List UInt8}
      (later : Supplies source bytes) : Supplies (.bytes front :: source) (front ++ bytes)

theorem Supplies.whole {bytes : List UInt8} (some : bytes ≠ []) :
    Supplies [.bytes bytes] bytes := by
  have supplies := Supplies.bytes some .ended
  rwa [List.append_nil] at supplies

/-- The pieces between the ends of lines, the last of which need not be ended. -/
def pieces (bytes : List UInt8) : List (List UInt8) := Text.splitBy (· == newline) bytes

def heldLines (bytes : List UInt8) : List (List UInt8) :=
  (pieces bytes).filter fun line => !isBlankLine line

theorem pieces_append (front rest : List UInt8) :
    pieces (front ++ newline :: rest) = pieces front ++ pieces rest :=
  Text.splitBy_append (p := (· == newline)) (beq_self_eq_true newline) front rest

theorem pieces_of_not_mem {line : List UInt8} (free : newline ∉ line) : pieces line = [line] := by
  apply Text.splitBy_of_not_mem
  intro b member
  rw [beq_eq_false_iff_ne]
  rintro rfl
  exact free member

theorem heldLines_append (front rest : List UInt8) :
    heldLines (front ++ newline :: rest) = heldLines front ++ heldLines rest := by
  rw [heldLines,pieces_append,List.filter_append]
  rfl

theorem heldLines_of_not_mem {line : List UInt8} (free : newline ∉ line) :
    heldLines line = if isBlankLine line then [] else [line] := by
  rw [heldLines,pieces_of_not_mem free,List.filter_singleton]
  cases isBlankLine line <;> rfl

private theorem isBlankLine_reverse (line : List UInt8) :
    isBlankLine line.reverse = isBlankLine line := by
  rw [isBlankLine,isBlankLine,List.all_reverse]

namespace Reader

private theorem heldLines_ended {line : List UInt8} (free : newline ∉ line) (rest : List UInt8) :
    heldLines (line.reverse ++ newline :: rest) =
      if isBlankLine line then heldLines rest else line.reverse :: heldLines rest := by
  have turned : newline ∉ line.reverse := fun member => free (List.mem_reverse.mp member)
  rw [heldLines_append,heldLines_of_not_mem turned,isBlankLine_reverse]
  split_ifs <;> rfl

private theorem not_mem_cons {b : UInt8} {line : List UInt8} (other : b ≠ newline)
    (free : newline ∉ line) : newline ∉ b :: line := by
  rw [List.mem_cons,not_or]
  exact ⟨other.symm,free⟩

theorem scan_complete {line bytes done rest : List UInt8} (free : newline ∉ line)
    (scanned : scan line bytes = .complete done rest) (later : List UInt8) :
    heldLines (line.reverse ++ bytes ++ later) = done :: heldLines (rest ++ later) := by
  fun_induction scan line bytes with
  | case1 line => cases scanned
  | case2 line bytes blank ih =>
    rw [List.append_assoc,List.cons_append,heldLines_ended free,if_pos blank]
    exact ih List.not_mem_nil scanned
  | case3 line bytes held =>
    cases scanned
    rw [List.append_assoc,List.cons_append,heldLines_ended free,if_neg held]
  | case4 line b bytes other ih =>
    have next := ih (not_mem_cons other free) scanned
    rwa [List.reverse_cons,List.append_assoc line.reverse [b],List.singleton_append] at next

theorem scan_stillOpen {line bytes line' : List UInt8} (free : newline ∉ line)
    (scanned : scan line bytes = .stillOpen line') :
    newline ∉ line' ∧ ∀ later, heldLines (line.reverse ++ bytes ++ later) =
      heldLines (line'.reverse ++ later) := by
  fun_induction scan line bytes with
  | case1 line =>
    cases scanned
    exact ⟨free,fun later => by rw [List.append_nil]⟩
  | case2 line bytes blank ih =>
    obtain ⟨still,same⟩ := ih List.not_mem_nil scanned
    refine ⟨still,fun later => ?_⟩
    rw [List.append_assoc,List.cons_append,heldLines_ended free,if_pos blank]
    exact same later
  | case3 line bytes held => cases scanned
  | case4 line b bytes other ih =>
    obtain ⟨still,same⟩ := ih (not_mem_cons other free) scanned
    refine ⟨still,fun later => ?_⟩
    rw [← same later,List.reverse_cons,List.append_assoc line.reverse [b],List.singleton_append]

/-- The bytes that a reader has still to tell of: its open line, what it has not looked at, and
what is still to come. -/
def Owes (r : Reader) (bytes : List UInt8) : Prop :=
  newline ∉ r.line ∧ ∃ later, Supplies r.source later ∧ bytes = r.line.reverse ++ r.buffer ++ later

/-- What a poll does with the lines that are still to be told of. -/
inductive Tells (lines : List (List UInt8)) : Poll × Reader → Prop
  | item {line bytes : List UInt8} {r : Reader} (first : lines = line :: heldLines bytes)
      (owes : r.Owes bytes) : Tells lines (.item (ofLine line),r)
  | pending {bytes : List UInt8} {r : Reader} (same : lines = heldLines bytes)
      (owes : r.Owes bytes) : Tells lines (.pending,r)
  | ended {r : Reader} (none : lines = []) : Tells lines (.ended,r)

private theorem tells_complete {line bytes done rest : List UInt8} (free : newline ∉ line)
    (scanned : scan line bytes = .complete done rest) {source : List Fill} {later : List UInt8}
    (supplies : Supplies source later) :
    Tells (heldLines (line.reverse ++ bytes ++ later)) (.item (ofLine done),⟨[],rest,source⟩) :=
  .item (scan_complete free scanned later) ⟨List.not_mem_nil,later,supplies,rfl⟩

theorem tells_look {line : List UInt8} (free : newline ∉ line) {source : List Fill}
    {later : List UInt8} (supplies : Supplies source later) :
    Tells (heldLines (line.reverse ++ later)) (look line source) := by
  induction supplies generalizing line with
  | ended =>
    have turned : newline ∉ line.reverse := fun member => free (List.mem_reverse.mp member)
    rw [List.append_nil,heldLines_of_not_mem turned,isBlankLine_reverse,look,finish]
    split_ifs with blank
    · exact .ended rfl
    · have nothing : Owes ⟨[],[],[]⟩ [] := ⟨List.not_mem_nil,[],.ended,rfl⟩
      exact .item rfl nothing
  | @pending source bytes later ih =>
    rw [look]
    exact .pending rfl ⟨free,bytes,later,by rw [List.append_nil]⟩
  | @bytes front some source bytes later ih =>
    obtain ⟨b,front,rfl⟩ := List.exists_cons_of_ne_nil some
    rw [look.eq_def,← List.append_assoc]
    dsimp only
    cases scanned : scan line (b :: front) with
    | complete done rest => exact tells_complete free scanned later
    | stillOpen line' =>
      obtain ⟨still,same⟩ := scan_stillOpen free scanned
      rw [same]
      exact ih still

theorem tells_poll {r : Reader} {bytes : List UInt8} (owes : r.Owes bytes) :
    Tells (heldLines bytes) r.poll := by
  obtain ⟨free,later,supplies,rfl⟩ := owes
  rw [poll]
  cases scanned : scan r.line r.buffer with
  | complete done rest => exact tells_complete free scanned supplies
  | stillOpen line' =>
    obtain ⟨still,same⟩ := scan_stillOpen free scanned
    rw [same]
    exact tells_look still supplies

theorem items_eq {r : Reader} {bytes : List UInt8} (owes : r.Owes bytes) :
    r.items = (heldLines bytes).map ofLine := by
  fun_induction items r generalizing bytes with
  | case1 r item r' polled smaller ih =>
    have tells := tells_poll owes
    rw [polled] at tells
    cases tells with
    | item first owes => rw [first,List.map_cons,ih owes]
  | case2 r r' polled smaller ih =>
    have tells := tells_poll owes
    rw [polled] at tells
    cases tells with
    | pending same owes => rw [same,ih owes]
  | case3 r r' polled =>
    have tells := tells_poll owes
    rw [polled] at tells
    cases tells with
    | ended none => rw [none,List.map_nil]

theorem items_of_supplies {source : List Fill} {bytes : List UInt8}
    (supplies : Supplies source bytes) : (of source).items = (heldLines bytes).map ofLine :=
  items_eq ⟨List.not_mem_nil,bytes,supplies,rfl⟩

/-- However the bytes are handed out, a reader yields the pieces of them between the ends of lines
that hold something, read one by one, the last piece among them where no end of a line follows. -/
theorem items_of_any_fills {source : List Fill} {bytes : List UInt8}
    (supplies : Supplies source bytes) :
    [newline].intercalate (pieces bytes) = bytes ∧ (∀ piece ∈ pieces bytes, newline ∉ piece) ∧
      (of source).items = ((pieces bytes).filter fun piece => !isBlankLine piece).map ofLine := by
  refine ⟨Text.intercalate_splitBy bytes,?_,items_of_supplies supplies⟩
  intro piece member
  exact Text.not_mem_of_splitBy member

namespace Sample

def front : List UInt8 := Utf8.encode "\x7b\"jsonrpc\":\"2.0\",\"method\":\"".toList

def bytes : List UInt8 :=
  Utf8.encode "\x7b\"jsonrpc\":\"2.0\",\"method\":\"é\"\x7d\n \r\n5".toList

def fills : List Fill :=
  [.bytes front,.pending,.bytes [0xC3],.pending,.pending,.bytes [0xA9,0x22,0x7D,10,32],
    .bytes [13],.bytes [10],.pending,.bytes [0x35]]

end Sample

/-- A message is cut inside a character, the next line is blank, and the last one has no end. -/
theorem items_of_any_fills_cut : Supplies Sample.fills Sample.bytes ∧
    (of Sample.fills).items =
      [.ok (.notification (.of "é" none)),.error (.invalidMessage .notObject)] := by
  have cut : Sample.bytes = Sample.front ++ ([0xC3] ++ ([0xA9,0x22,0x7D,10,32] ++ ([13] ++
      ([10] ++ ([0x35] ++ []))))) := by decide +kernel
  have supplies : Supplies Sample.fills Sample.bytes := by
    rw [cut]
    refine .bytes (by decide +kernel) (.pending (.bytes ?_ (.pending (.pending (.bytes ?_
      (.bytes ?_ (.bytes ?_ (.pending (.bytes ?_ .ended))))))))) <;> exact List.cons_ne_nil _ _
  refine ⟨supplies,?_⟩
  rw [(items_of_any_fills supplies).2.2]
  decide +kernel

end Reader

end ToolView.Rpc
