import ToolView.Rpc.Line

/-! Writing messages to a stream of bytes, each on a line of its own. Where there is no room for all
of a message its first bytes are written nevertheless. -/

namespace ToolView.Rpc

/-- A writer: what is written, and the count of bytes that it still takes, if that is limited. -/
structure Writer where
  written : List UInt8
  room : Option Nat
  deriving DecidableEq

namespace Writer

def of (limit : Option Nat) : Writer := ⟨[], limit⟩

def bytesOf (m : Message) : List UInt8 := Utf8.encode m.line.toList ++ [newline]

def put (w : Writer) (bytes : List UInt8) : Except TransportError Unit × Writer :=
  match w.room with
  | none => (.ok (), { w with written := w.written ++ bytes })
  | some room =>
    let after : Writer := ⟨w.written ++ bytes.take room, some (room - bytes.length)⟩
    (if bytes.length ≤ room then .ok () else .error (.io "pipe is full"), after)

def write (w : Writer) (m : Message) : Except TransportError Unit × Writer := w.put (bytesOf m)

def writeAll (w : Writer) : List Message → Except TransportError Unit × Writer
  | [] => (.ok (), w)
  | m :: ms =>
    match w.write m with
    | (.ok (), w) => w.writeAll ms
    | (.error e, w) => (.error e, w)

end Writer

end ToolView.Rpc
