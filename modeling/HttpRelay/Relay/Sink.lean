import HttpRelay.Bytes
import HttpRelay.Fault

/-!
# Sinks

The writing side of a connection. A sink takes bytes until its room is used up; a write that
does not fit is taken as far as it does. What was taken is kept in order.
-/

namespace HttpRelay

structure Sink where
  /-- How many more bytes are taken, if there is a bound. -/
  room : Option Nat
  /-- The kind of fault with which a write fails that finds no room. -/
  refusal : FaultKind
  /-- The kind of fault with which every flush fails, if flushes do. -/
  flushRefusal : Option FaultKind
  written : Array UInt8
  deriving DecidableEq, Repr

namespace Sink

def unbounded : Sink :=
  ⟨none, .brokenPipe, none, #[]⟩

def output (sink : Sink) : Bytes :=
  sink.written.toList

/-- The sink without the record of what it took. -/
def forgetOutput (sink : Sink) : Sink :=
  { sink with written := #[] }

/-- Writes bytes: the sink afterwards, and the fault if not all were taken. -/
def write (sink : Sink) (bytes : Bytes) : Sink × Option Fault :=
  match sink with
  | ⟨none, refusal, flushRefusal, written⟩ =>
      (⟨none, refusal, flushRefusal, written ++ bytes⟩, none)
  | ⟨some room, refusal, flushRefusal, written⟩ =>
      (⟨some (room - bytes.length), refusal, flushRefusal, written ++ bytes.take room⟩,
        if bytes.length ≤ room then none else some (.ofKind refusal))

def flush (sink : Sink) : Option Fault :=
  sink.flushRefusal.map .ofKind

/-- A peer that is gone: every write fails. -/
def hangUp (sink : Sink) : Sink :=
  { sink with room := some 0, refusal := .brokenPipe }

@[simp]
theorem output_write_none (bytes : Bytes) (sink : Sink) (bounded : sink.room = none) :
    (sink.write bytes).1.output = sink.output ++ bytes := by
  obtain ⟨room, refusal, flushRefusal, written⟩ := sink
  subst bounded
  simp [write, output]

@[simp]
theorem output_write_some (bytes : Bytes) (sink : Sink) {room : Nat}
    (bounded : sink.room = some room) :
    (sink.write bytes).1.output = sink.output ++ bytes.take room := by
  obtain ⟨_, refusal, flushRefusal, written⟩ := sink
  subst bounded
  simp [write, output]

/-- What was taken stays, whatever is written. -/
theorem output_prefix_write (bytes : Bytes) (sink : Sink) :
    sink.output <+: (sink.write bytes).1.output := by
  cases bounded : sink.room with
  | none =>
      rw [output_write_none bytes sink bounded]
      exact List.prefix_append _ _
  | some room =>
      rw [output_write_some bytes sink bounded]
      exact List.prefix_append _ _

end Sink

end HttpRelay
