import StackMachine.Draft

/-!
# Sinks

Output goes to a sink, which stands for any writer a caller may pass.  A writer takes bytes until it
fails, and whoever writes to it stops there, so all that matters of it is how many bytes it takes
first and how it fails.  What it has taken stays taken: its content is always a beginning of what was
written to it.  Each flush may succeed or fail, whatever became of those before it.
-/

namespace StackMachine

/-- How a sink fails. -/
inductive SinkError : Type where
  /-- The writer gives a reason of its own. -/
  | failed (reason : String)
  /-- The writer takes no byte and gives no reason. -/
  | stalled
deriving DecidableEq, Repr

namespace SinkError

def message : SinkError → String
  | failed reason => reason
  | stalled => "failed to write whole buffer"

end SinkError

structure Sink : Type where
  /-- How many more bytes are taken, if that is limited. -/
  room : Option Nat := none
  /-- How the sink fails on the first byte that is not taken. -/
  overrun : SinkError := .stalled
  /-- How a flush fails, if it does, given the number of flushes before it. -/
  flushError : Nat → Option SinkError := fun _ => none
  /-- The bytes taken so far, the latest first. -/
  taken : List UInt8 := []
  /-- How often the sink was flushed. -/
  flushes : Nat := 0

namespace Sink

/-- The bytes taken so far. -/
def content (s : Sink) : List UInt8 :=
  s.taken.reverse

/-- The bytes of a write that the sink has room for. -/
def admits (s : Sink) (bytes : List UInt8) : List UInt8 :=
  match s.room with
  | none => bytes
  | some room => bytes.take room

/-- Writes some bytes, as many as fit. -/
def write (s : Sink) (bytes : List UInt8) : Sink × Option SinkError :=
  let fit := s.admits bytes
  ({ s with room := s.room.map (· - fit.length), taken := fit.reverse ++ s.taken },
    if fit.length = bytes.length then none else some s.overrun)

/-- Passes on what was taken. -/
def flush (s : Sink) : Sink × Option SinkError :=
  ({ s with flushes := s.flushes + 1 }, s.flushError s.flushes)

theorem content_write (s : Sink) (bytes : List UInt8) :
    (s.write bytes).1.content = s.content ++ s.admits bytes := by
  simp [write, content]

/-- A sink without a limit takes everything. -/
theorem write_unlimited {s : Sink} (h : s.room = none) (bytes : List UInt8) :
    s.write bytes = ({ s with taken := bytes.reverse ++ s.taken }, none) := by
  simp [write, admits, h]

end Sink

/-- Why a program could not be written. -/
inductive WriteError : Type where
  | refused (r : Refusal)
  | sink (e : SinkError)
deriving DecidableEq, Repr

namespace WriteError

def message : WriteError → String
  | refused r => r.message
  | sink e => e.message

end WriteError

namespace Draft

/-- Writes a draft.  A sink that fails before the writer stopped is the reason that counts. -/
def deliver (d : Draft) (s : Sink) : Sink × Option WriteError :=
  match s.write d.bytes with
  | (s, some e) => (s, some (.sink e))
  | (s, none) => (s, d.refusal.map .refused)

end Draft

end StackMachine
