import HttpRelay.Proofs.Relay.BodyGrammar

/-!
# The output of a body

A body goes on verbatim. While it is relayed, the bytes that were written and those of the
line that is being read are together the bytes that were taken, in order; when the relay
fails, the bytes written stay a part of these, counted from the front.
-/

namespace HttpRelay

namespace Sink

/-- What of some bytes finds room in a sink. -/
def fitting (sink : Sink) (bytes : Bytes) : Bytes :=
  match sink.room with
  | none => bytes
  | some room => bytes.take room

theorem output_write (sink : Sink) (bytes : Bytes) :
    (sink.write bytes).1.output = sink.output ++ sink.fitting bytes := by
  simp only [fitting]
  cases bounded : sink.room with
  | none => exact output_write_none bytes sink bounded
  | some room => exact output_write_some bytes sink bounded

theorem fitting_prefix (sink : Sink) (bytes : Bytes) : sink.fitting bytes <+: bytes := by
  simp only [fitting]
  split
  · exact List.prefix_rfl
  · exact List.take_prefix _ _

theorem fitting_of_written {sink written : Sink} {bytes : Bytes}
    (wrote : sink.write bytes = (written, none)) : sink.fitting bytes = bytes := by
  rcases sink with ⟨room, refusal, flushRefusal, record⟩
  cases room with
  | none => rfl
  | some room =>
      simp only [write, Prod.mk.injEq, ite_eq_left_iff, reduceCtorEq, imp_false] at wrote
      exact List.take_of_length_le (Nat.le_of_not_lt fun short => wrote.2 (Nat.not_le_of_lt short))

theorem output_of_written {sink written : Sink} {bytes : Bytes}
    (wrote : sink.write bytes = (written, none)) : written.output = sink.output ++ bytes := by
  have output := sink.output_write bytes
  simp only [fitting_of_written wrote, wrote] at output
  exact output

theorem output_of_fault {sink written : Sink} {bytes : Bytes} {fault : Fault}
    (wrote : sink.write bytes = (written, some fault)) :
    written.output <+: sink.output ++ bytes := by
  have output := sink.output_write bytes
  simp only [wrote] at output
  simp only [output]
  exact (List.prefix_append_right_inj _).mpr (sink.fitting_prefix bytes)

/-- What writes can make of a sink: its output gets longer, and it neither runs out of room
that is unbounded nor gains any. -/
structure Grows (before after : Sink) : Prop where
  output : before.output <+: after.output
  unbounded : before.room = none → after.room = none
  full : before.room = some 0 → after.room = some 0

theorem Grows.refl (sink : Sink) : sink.Grows sink :=
  ⟨List.prefix_rfl, id, id⟩

theorem Grows.trans {first second third : Sink} (grows : first.Grows second)
    (further : second.Grows third) : first.Grows third :=
  ⟨grows.output.trans further.output, further.unbounded ∘ grows.unbounded,
    further.full ∘ grows.full⟩

theorem Grows.hangUp {before after : Sink} (grows : before.Grows after) :
    before.hangUp.Grows after.hangUp :=
  ⟨grows.output, nofun, fun _ => rfl⟩

theorem grows_of_write {sink written : Sink} {bytes : Bytes} {fault : Option Fault}
    (wrote : sink.write bytes = (written, fault)) : sink.Grows written := by
  have writtenEq : written = (sink.write bytes).1 := by rw [wrote]
  simp only [writtenEq]
  refine ⟨sink.output_prefix_write bytes, ?_, ?_⟩
  · rcases sink with ⟨room, refusal, flushRefusal, record⟩
    rintro rfl
    rfl
  · rcases sink with ⟨room, refusal, flushRefusal, record⟩
    rintro rfl
    simp [write]

end Sink

namespace Body

/-- The bytes of the line that is being read, which are taken and not written yet. -/
def pending (body : Body) : Bytes :=
  match body.line? with
  | some line => line.toList
  | none => []

/-- A step writes the bytes that were taken, all of them if it goes well, and those in front
of some point if it fails. -/
def Step.Writes (origin : Sink) (taken : Bytes) : Step → Prop
  | .more next =>
      origin.Grows next.sink ∧ next.sink.output ++ next.progress.pending = taken
  | .done relayed => origin.Grows relayed.sink ∧ relayed.sink.output = taken
  | .failed broken | .refused broken =>
      origin.Grows broken.sink ∧ broken.sink.output <+: taken

section Writes

variable {origin sink : Sink} {taken : Bytes}

theorem writes_goOn {stage : Stage} {relayed : Nat} (grows : origin.Grows sink)
    (output : sink.output ++ (Body.mk stage relayed).pending = taken) :
    (goOn stage relayed sink).Writes origin taken :=
  ⟨grows, output⟩

theorem writes_finish {count : Nat} (grows : origin.Grows sink) (output : sink.output = taken) :
    (finish count sink).Writes origin taken := by
  cases flushed : sink.flush with
  | none =>
      simp only [finish_of_flush flushed]
      exact ⟨grows, output⟩
  | some fault =>
      simp only [finish_of_fault flushed]
      exact ⟨grows, output ▸ List.prefix_rfl⟩

theorem writes_endCopy {goOn : Sink → Step} (grows : origin.Grows sink)
    (output : sink.output = taken) (goesOn : (goOn sink).Writes origin taken) :
    (endCopy sink goOn).Writes origin taken := by
  cases flushed : sink.flush with
  | none =>
      simp only [endCopy_of_flush flushed]
      exact goesOn
  | some fault =>
      simp only [endCopy_of_fault flushed]
      exact ⟨grows, output ▸ List.prefix_rfl⟩

theorem writes_writeLine {line : Bytes} {goOn : Sink → Step} (grows : origin.Grows sink)
    (goesOn : ∀ written : Sink, origin.Grows written → written.output = sink.output ++ line →
      (goOn written).Writes origin (sink.output ++ line)) :
    (writeLine line sink goOn).Writes origin (sink.output ++ line) := by
  simp only [writeLine]
  cases wrote : sink.write line with
  | mk written fault =>
      have further := grows.trans (Sink.grows_of_write wrote)
      cases fault with
      | none => exact goesOn written further (Sink.output_of_written wrote)
      | some fault => exact ⟨further, Sink.output_of_fault wrote⟩

theorem writes_copyByte {copy : Copy} {byte : UInt8} {stage : Copy → Stage} {relayed : Nat}
    {after : Sink → Step} (noLine : ∀ copy, (Body.mk (stage copy) relayed).pending = [])
    (grows : origin.Grows sink)
    (behind : ∀ written : Sink, origin.Grows written →
      (after written).Writes origin written.output) :
    (copyByte copy sink byte (fun copy => goOn (stage copy) relayed) after).Writes origin
      (sink.output ++ [byte]) := by
  simp only [copyByte]
  cases wrote : sink.write [byte] with
  | mk written fault =>
      have further := grows.trans (Sink.grows_of_write wrote)
      cases fault with
      | some fault => exact ⟨further, Sink.output_of_fault wrote⟩
      | none =>
          have output := Sink.output_of_written wrote
          dsimp only
          split
          · exact writes_endCopy further output (output ▸ behind written further)
          · apply writes_goOn further
            simp only [noLine, List.append_nil, output]

theorem writes_lineByte {line : Array UInt8} {byte : UInt8} {stage : Array UInt8 → Stage}
    {relayed : Nat} {after : Bytes → Bytes → Sink → Step}
    (reads : ∀ line, (Body.mk (stage line) relayed).pending = line.toList)
    (grows : origin.Grows sink)
    (behind : ∀ content whole, (after content whole sink).Writes origin (sink.output ++ whole)) :
    (lineByte line sink byte (fun line => goOn (stage line) relayed) after).Writes origin
      (sink.output ++ (line.toList ++ [byte])) := by
  simp only [lineByte, Line.accept]
  by_cases isEnd : byte = Bytes.lineFeed
  · simp only [isEnd, beq_self_eq_true, if_true]
    by_cases within : (Line.content line.toList).length ≤ lineLimit
    · simp only [within, if_true]
      exact behind _ _
    · simp only [within, if_false]
      exact ⟨grows, List.prefix_append _ _⟩
  · simp only [beq_iff_eq, isEnd, if_false]
    apply writes_goOn grows
    simp only [reads, Array.toList_push]

theorem writes_afterSizeLine {relayed : Nat} (content line : Bytes) (grows : origin.Grows sink) :
    (afterSizeLine relayed content line sink).Writes origin (sink.output ++ line) := by
  simp only [afterSizeLine]
  split
  · exact ⟨grows, List.prefix_append _ _⟩
  · apply writes_writeLine grows
    intro written further output
    apply writes_goOn further
    simp only [stageOfSize]
    split <;> exact (List.append_nil _).trans output

theorem writes_afterChunkEnd {relayed : Nat} (content line : Bytes) (grows : origin.Grows sink) :
    (afterChunkEnd relayed content line sink).Writes origin (sink.output ++ line) := by
  simp only [afterChunkEnd]
  split
  · apply writes_writeLine grows
    intro written further output
    apply writes_goOn further
    exact (List.append_nil _).trans output
  · exact ⟨grows, List.prefix_append _ _⟩

theorem writes_afterTrailer {relayed : Nat} (content line : Bytes) (grows : origin.Grows sink) :
    (afterTrailer relayed content line sink).Writes origin (sink.output ++ line) := by
  simp only [afterTrailer]
  apply writes_writeLine grows
  intro written further output
  split
  · exact writes_finish further output
  · apply writes_goOn further
    exact (List.append_nil _).trans output

/-- One byte is written, or joins the line that is being read. -/
theorem writes_accept {flow : Flow Body} (grows : origin.Grows flow.sink) (byte : UInt8) :
    (accept flow byte).Writes origin (flow.sink.output ++ (flow.progress.pending ++ [byte])) := by
  rcases flow with ⟨⟨stage, relayed⟩, sink⟩
  cases stage with
  | fixed copy =>
      apply writes_copyByte _ grows
      · intro written further
        exact writes_finish further rfl
      · intro copy
        rfl
  | chunk copy =>
      apply writes_copyByte _ grows
      · intro written further
        apply writes_goOn further
        exact List.append_nil _
      · intro copy
        rfl
  | sizeLine line =>
      apply writes_lineByte _ grows
      · intro content whole
        exact writes_afterSizeLine content whole grows
      · intro line
        rfl
  | chunkEnd line =>
      apply writes_lineByte _ grows
      · intro content whole
        exact writes_afterChunkEnd content whole grows
      · intro line
        rfl
  | trailer line =>
      apply writes_lineByte _ grows
      · intro content whole
        exact writes_afterTrailer content whole grows
      · intro line
        rfl

theorem writes_start (framing : Framing) (sink : Sink) :
    (start framing sink).Writes sink sink.output := by
  have grows := Sink.Grows.refl sink
  cases framing with
  | empty => exact writes_finish grows rfl
  | length count =>
      cases count with
      | zero => exact writes_endCopy grows rfl (writes_finish grows rfl)
      | succ count => exact writes_goOn grows (List.append_nil _)
  | chunked => exact writes_goOn grows (List.append_nil _)

end Writes

end Body

end HttpRelay
