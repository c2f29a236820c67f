import HttpRelay.Proofs.Relay.BodyOutput

/-!
# Tracking a body

What a relay of a body knows of the bytes it took: they are not a whole body yet, what
completes them is what completes the stage, and they stand in the sink or in the line that is
being read. Every byte keeps this invariant. A relay that ends well has taken a whole body and
written all of it; one that fails has written a part of what it took, and never went past the
end of the body.
-/

namespace HttpRelay

namespace Body

/-- Bytes that do not go past the end of a body: no part of them in front is a whole body
already. -/
def IsWithin (framing : Framing) (bytes : Bytes) : Prop :=
  ∀ first, first <+: bytes → IsWhole framing first → first = bytes

/-- The bytes of a body that were taken by a relay which began with the given sink. -/
structure Tracks (framing : Framing) (origin : Sink) (taken : Bytes) (flow : Flow Body) :
    Prop where
  inProgress : flow.progress.stage.InProgress
  grows : origin.Grows flow.sink
  written : flow.sink.output ++ flow.progress.pending = origin.output ++ taken
  unfinished : ∀ first, first <+: taken → ¬IsWhole framing first
  completes : ∀ rest, IsWhole framing (taken ++ rest) ↔ flow.progress.stage.Completes rest

def Step.Tracks (framing : Framing) (origin : Sink) (taken : Bytes) : Step → Prop
  | .more next => Body.Tracks framing origin taken next
  | .done relayed =>
      IsWhole framing taken ∧ IsWithin framing taken ∧ origin.Grows relayed.sink ∧
        relayed.sink.output = origin.output ++ taken
  | .failed broken | .refused broken =>
      IsWithin framing taken ∧ origin.Grows broken.sink ∧
        broken.sink.output <+: origin.output ++ taken

variable {framing : Framing} {origin : Sink} {taken : Bytes} {flow : Flow Body}

theorem isWithin_nil : IsWithin framing [] := by
  intro first isPrefix _
  exact List.prefix_nil.mp isPrefix

namespace Tracks

theorem isWithin (tracks : Tracks framing origin taken flow) : IsWithin framing taken := by
  intro first isPrefix isWhole
  exact absurd isWhole (tracks.unfinished first isPrefix)

theorem isWithin_append (tracks : Tracks framing origin taken flow) (byte : UInt8) :
    IsWithin framing (taken ++ [byte]) := by
  intro first isPrefix isWhole
  rcases List.prefix_concat_iff.mp isPrefix with same | earlier
  · exact same
  · exact absurd isWhole (tracks.unfinished first earlier)

theorem output_prefix (tracks : Tracks framing origin taken flow) :
    flow.sink.output <+: origin.output ++ taken := by
  rw [← tracks.written]
  exact List.prefix_append _ _

theorem append_pending (tracks : Tracks framing origin taken flow) (byte : UInt8) :
    flow.sink.output ++ (flow.progress.pending ++ [byte]) = origin.output ++ (taken ++ [byte]) := by
  rw [← List.append_assoc, tracks.written, List.append_assoc]

theorem accept (tracks : Tracks framing origin taken flow) (byte : UInt8) :
    (accept flow byte).Tracks framing origin (taken ++ [byte]) := by
  have follows := follows_accept tracks.inProgress byte
  have writes := writes_accept tracks.grows byte
  simp only [tracks.append_pending byte] at writes
  have completes : ∀ rest, IsWhole framing ((taken ++ [byte]) ++ rest) ↔
      flow.progress.stage.Completes (byte :: rest) := by
    intro rest
    rw [← List.append_cons]
    exact tracks.completes (byte :: rest)
  cases accepted : Body.accept flow byte with
  | more next =>
      simp only [accepted] at follows writes
      have nextCompletes : ∀ rest, IsWhole framing ((taken ++ [byte]) ++ rest) ↔
          next.progress.stage.Completes rest :=
        fun rest => (completes rest).trans (follows.2 rest)
      refine ⟨follows.1, writes.1, writes.2, ?_, nextCompletes⟩
      -- If the body were whole with this byte, the stage would have nothing to come.
      intro first isPrefix isWhole
      rcases List.prefix_concat_iff.mp isPrefix with rfl | earlier
      · apply not_completes_nil follows.1
        rw [← nextCompletes, List.append_nil]
        exact isWhole
      · exact tracks.unfinished first earlier isWhole
  | done relayed =>
      simp only [accepted] at follows writes
      refine ⟨?_, tracks.isWithin_append byte, writes⟩
      have whole := (completes []).mpr ((follows []).mpr rfl)
      rwa [List.append_nil] at whole
  | failed broken =>
      simp only [accepted] at writes
      exact ⟨tracks.isWithin_append byte, writes⟩
  | refused broken =>
      simp only [accepted] at writes
      exact ⟨tracks.isWithin_append byte, writes⟩

end Tracks

theorem tracks_start (framing : Framing) (sink : Sink) :
    (start framing sink).Tracks framing sink [] := by
  have follows := follows_start framing sink
  have writes := writes_start framing sink
  have behind : sink.output ++ [] = sink.output := List.append_nil _
  cases started : start framing sink with
  | more next =>
      simp only [started] at follows writes
      refine ⟨follows.1, writes.1, writes.2.trans behind.symm, ?_, follows.2⟩
      intro first isPrefix isWhole
      apply not_completes_nil follows.1
      rw [← follows.2, ← List.prefix_nil.mp isPrefix]
      exact isWhole
  | done relayed =>
      simp only [started] at follows writes
      exact ⟨(follows []).mpr rfl, isWithin_nil, writes.1, writes.2.trans behind.symm⟩
  | failed broken =>
      simp only [started] at writes
      refine ⟨isWithin_nil, writes.1, ?_⟩
      simp only [behind]
      exact writes.2
  | refused broken => exact absurd started start_ne_refused

end Body

end HttpRelay
