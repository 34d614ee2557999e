import ToolView.Rpc.Line

/-! Reading messages from a stream of bytes. A reader looks at its input as often as it is polled,
and keeps what it has of a line from one look to the next, so that it makes no difference where the
input is cut into pieces. -/

namespace ToolView.Rpc

/-- What one look at the input brings. No bytes are the end of the input, for now. -/
inductive Fill where
  | bytes (bytes : List UInt8)
  | pending
  | failed (text : String)
  deriving DecidableEq

/-- A reader: the open line in reverse, the bytes that are there but not looked at, and what the
next looks bring. Once they are used up the input is at its end. -/
structure Reader where
  line : List UInt8
  buffer : List UInt8
  source : List Fill
  deriving DecidableEq

namespace Reader

def of (source : List Fill) : Reader := ⟨[], [], source⟩

inductive Poll where
  | item (item : Item)
  | pending
  | ended

/-- The bytes up to the end of a line that holds something, and what is left; or the line that is
still open. -/
inductive Scanned where
  | complete (line : List UInt8) (rest : List UInt8)
  | stillOpen (line : List UInt8)
  deriving DecidableEq

/-- Goes on with a line, given in reverse, and passes over blank ones. -/
def scan (line : List UInt8) : List UInt8 → Scanned
  | [] => .stillOpen line
  | b :: bs =>
    if b = newline then if isBlankLine line then scan [] bs else .complete line.reverse bs
    else scan (b :: line) bs

/-- The end of the input: an open line still counts, if it holds something. -/
def finish (line : List UInt8) (source : List Fill) : Poll × Reader :=
  if isBlankLine line then (.ended, ⟨[], [], source⟩)
  else (.item (ofLine line.reverse), ⟨[], [], source⟩)

def look (line : List UInt8) : List Fill → Poll × Reader
  | [] => finish line []
  | .pending :: source => (.pending, ⟨line, [], source⟩)
  | .failed text :: source => (.item (.error (.io text)), ⟨line, [], source⟩)
  | .bytes [] :: source => finish line source
  | .bytes bytes :: source =>
    match scan line bytes with
    | .complete line rest => (.item (ofLine line), ⟨[], rest, source⟩)
    | .stillOpen line => look line source

def poll (r : Reader) : Poll × Reader :=
  match scan r.line r.buffer with
  | .complete line rest => (.item (ofLine line), ⟨[], rest, r.source⟩)
  | .stillOpen line => look line r.source

def sourceSize : List Fill → Nat
  | [] => 0
  | .bytes bytes :: source => bytes.length + 1 + sourceSize source
  | .pending :: source | .failed _ :: source => 1 + sourceSize source

def size (r : Reader) : Nat :=
  r.line.length + r.buffer.length + sourceSize r.source

theorem size_scan (line bytes : List UInt8) :
    match scan line bytes with
    | .complete _ rest => rest.length < line.length + bytes.length
    | .stillOpen line' => line'.length ≤ line.length + bytes.length := by
  induction bytes generalizing line with
  | nil => simp [scan]
  | cons b bs ih =>
    simp only [scan]
    by_cases ends : b = newline
    · by_cases blank : isBlankLine line = true
      · have next := ih []
        simp only [ends, blank, if_true]
        split at next <;> simp_all <;> omega
      · simp only [ends, blank, if_true, if_false, Bool.false_eq_true, List.length_cons]
        omega
    · have next := ih (b :: line)
      simp only [ends, if_false]
      split at next <;> simp_all <;> omega

theorem size_finish {line : List UInt8} {source : List Fill} {p : Poll} {r : Reader}
    (h : finish line source = (p, r)) (more : p ≠ .ended) :
    r.size < line.length + sourceSize source := by
  unfold finish at h
  split at h <;> cases h
  · exact absurd rfl more
  · next holds =>
    cases line with
    | nil => exact absurd rfl holds
    | cons b bs => simp [size]

theorem size_look {line : List UInt8} {source : List Fill} {p : Poll} {r : Reader}
    (h : look line source = (p, r)) (more : p ≠ .ended) :
    r.size < line.length + sourceSize source := by
  fun_induction look line source with
  | case1 line => exact size_finish h more
  | case2 line source => cases h; simp [size, sourceSize]
  | case3 line text source => cases h; simp [size, sourceSize]
  | case4 line source =>
    have := size_finish h more
    simp only [sourceSize, List.length_nil]
    omega
  | case5 line bytes source _ done rest scanned =>
    cases h
    have := size_scan line bytes
    simp only [scanned] at this
    simp only [size, sourceSize, List.length_nil]
    omega
  | case6 line bytes source _ line' scanned ih =>
    have := size_scan line bytes
    simp only [scanned] at this
    have := ih h
    simp only [sourceSize]
    omega

theorem size_poll {r : Reader} {p : Poll} {r' : Reader} (h : r.poll = (p, r'))
    (more : p ≠ .ended) : r'.size < r.size := by
  have scanned := size_scan r.line r.buffer
  unfold poll at h
  split at h <;> simp only [*] at scanned
  · cases h
    simp only [size, List.length_nil]
    omega
  · have := size_look h more
    simp only [size] at this ⊢
    omega

def items (r : Reader) : List Item :=
  match h : r.poll with
  | (.item item, r') =>
    have : r'.size < r.size := size_poll h (by simp)
    item :: items r'
  | (.pending, r') =>
    have : r'.size < r.size := size_poll h (by simp)
    items r'
  | (.ended, _) => []
termination_by r.size

end Reader

end ToolView.Rpc
