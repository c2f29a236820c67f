import HttpRelay.Proofs.Relay.PassTracking
import HttpRelay.Proofs.Stream.Likeness

/-!
# Sinks with limited room

A pass into a sink that takes a given number of bytes in total, beside the same pass into a sink
that takes everything. Up to the write that goes past the total, every byte does the same to both
(`Pass.isAlikeUntil_scanner`). At that write the limited pass fails with the fault of its sink, and
has written the bytes of the other as far as the total. Each part of a step writes at most once,
and what goes on behind a write is quiet (`Body.IsQuiet`), so the two steps are compared at one
write only.
-/

namespace HttpRelay

namespace Sink

/-- A sink that takes everything, and one that has taken the same and takes only the given number
of bytes in total. -/
structure IsLimited (total : Nat) (refusal : FaultKind) (sink limited : Sink) : Prop where
  unbounded : sink.room = none
  within : sink.output.length ≤ total
  limited : limited =
    ⟨some (total - sink.output.length), refusal, sink.flushRefusal, sink.written⟩

variable {total : Nat} {refusal : FaultKind} {sink limited : Sink}

theorem IsLimited.output (isLimited : sink.IsLimited total refusal limited) :
    limited.output = sink.output := by
  rw [isLimited.limited]
  rfl

theorem IsLimited.flush (isLimited : sink.IsLimited total refusal limited) :
    limited.flush = sink.flush := by
  rw [isLimited.limited]
  rfl

/-- A write that stays within the total is the same for both sinks, and any other is taken up to
the total. -/
theorem IsLimited.write (isLimited : sink.IsLimited total refusal limited) (bytes : Bytes) :
    ∃ written, sink.write bytes = (written, none) ∧ written.output = sink.output ++ bytes ∧
      ((∃ other, limited.write bytes = (other, none) ∧ written.IsLimited total refusal other) ∨
        ∃ other, limited.write bytes = (other, some (.ofKind refusal)) ∧
          total < written.output.length ∧ other.output = written.output.take total) := by
  rcases sink with ⟨room, sinkRefusal, flushRefusal, record⟩
  rcases isLimited with ⟨unbounded, within, rfl⟩
  cases unbounded
  have output : (Sink.mk none sinkRefusal flushRefusal (record ++ bytes)).output =
      record.toList ++ bytes := Array.toList_appendList
  have taken : (Sink.mk none sinkRefusal flushRefusal record).output = record.toList := rfl
  refine ⟨⟨none, sinkRefusal, flushRefusal, record ++ bytes⟩, rfl, output, ?_⟩
  rw [output, taken, List.length_append]
  rw [taken] at within
  by_cases fits : bytes.length ≤ total - record.toList.length
  · left
    refine ⟨_, Prod.ext rfl (if_pos fits), rfl, ?_, ?_⟩
    · rw [output, List.length_append]
      omega
    · simp only [write, output, List.length_append, Nat.sub_add_eq, List.take_of_length_le fits]
  · right
    refine ⟨_, Prod.ext rfl (if_neg fits), by omega, ?_⟩
    rw [List.take_append, List.take_of_length_le within]
    exact Array.toList_appendList

end Sink

namespace Body

/-- Relays of a body that differ in the room of their sinks. -/
def likeness (total : Nat) (refusal : FaultKind) : Likeness (Flow Body) Relayed Broken where
  state flow other :=
    ∃ limited, flow.sink.IsLimited total refusal limited ∧ other = { flow with sink := limited }
  value relayed other :=
    ∃ limited, relayed.sink.IsLimited total refusal limited ∧
      other = { relayed with sink := limited }
  error broken other :=
    ∃ limited, broken.sink.IsLimited total refusal limited ∧ other = { broken with sink := limited }

/-- What was written after a step. -/
def Step.output : Step → Bytes
  | .more flow => flow.sink.output
  | .done relayed => relayed.sink.output
  | .failed broken | .refused broken => broken.sink.output

/-- A step into a limited sink that fails where a step writes past the total. -/
def Step.IsCutShort (total : Nat) (refusal : FaultKind) (fail : Broken → Step)
    (step other : Step) : Prop :=
  total < step.output.length ∧
    ∃ sink, other = fail ⟨.fault (.ofKind refusal), sink⟩ ∧ sink.output = step.output.take total

/-- A step does the same to both sinks, or fails at the write that the limited one does not take. -/
def Step.Limits (total : Nat) (refusal : FaultKind) (fail : Broken → Step)
    (step other : Step) : Prop :=
  step.IsLike (likeness total refusal) other ∨ step.IsCutShort total refusal fail other

/-- The rest of a step behind its write: it writes nothing, and does alike to both sinks. -/
structure IsQuiet (total : Nat) (refusal : FaultKind) (goOn : Sink → Step) : Prop where
  alike : ∀ {sink limited : Sink}, sink.IsLimited total refusal limited →
    (goOn sink).IsLike (likeness total refusal) (goOn limited)
  output : ∀ sink, (goOn sink).output = sink.output

section Quiet

variable {total : Nat} {refusal : FaultKind}

theorem output_finish (count : Nat) (sink : Sink) : (finish count sink).output = sink.output := by
  rw [finish]
  cases sink.flush <;> rfl

theorem output_endCopy {goOn : Sink → Step} (quiet : ∀ sink, (goOn sink).output = sink.output)
    (sink : Sink) : (endCopy sink goOn).output = sink.output := by
  rw [endCopy]
  cases sink.flush with
  | none => exact quiet sink
  | some fault => rfl

theorem output_start (framing : Framing) (sink : Sink) :
    (start framing sink).output = sink.output := by
  cases framing with
  | empty => exact output_finish 0 sink
  | length count =>
      cases count with
      | zero => exact output_endCopy (output_finish 0) sink
      | succ count => rfl
  | chunked => rfl

theorem isQuiet_goOn (stage : Stage) (relayed : Nat) :
    IsQuiet total refusal (goOn stage relayed) where
  alike isLimited := .more ⟨_, isLimited, rfl⟩
  output _ := rfl

theorem isQuiet_finish (count : Nat) : IsQuiet total refusal (finish count) where
  alike := by
    intro sink limited isLimited
    simp only [finish, isLimited.flush]
    cases sink.flush with
    | none => exact .done ⟨_, isLimited, rfl⟩
    | some fault => exact .failed ⟨_, isLimited, rfl⟩
  output := output_finish count

theorem IsQuiet.endCopy {goOn : Sink → Step} (quiet : IsQuiet total refusal goOn) :
    IsQuiet total refusal fun sink => endCopy sink goOn where
  alike := by
    intro sink limited isLimited
    simp only [Body.endCopy, isLimited.flush]
    cases sink.flush with
    | none => exact quiet.alike isLimited
    | some fault => exact .failed ⟨_, isLimited, rfl⟩
  output := output_endCopy quiet.output

theorem isQuiet_start (framing : Framing) : IsQuiet total refusal (start framing) := by
  cases framing with
  | empty => exact isQuiet_finish 0
  | length count =>
      cases count with
      | zero => exact (isQuiet_finish 0).endCopy
      | succ count => exact isQuiet_goOn _ _
  | chunked => exact isQuiet_goOn _ _

end Quiet

section Steps

variable {total : Nat} {refusal : FaultKind} {sink limited : Sink} {relayed : Nat}

theorem limits_writeLine {line : Bytes} {goOn : Sink → Step}
    (isLimited : sink.IsLimited total refusal limited) (quiet : IsQuiet total refusal goOn) :
    (writeLine line sink goOn).Limits total refusal .failed (writeLine line limited goOn) := by
  rcases isLimited.write line with
    ⟨written, wrote, _, ⟨other, otherWrote, still⟩ | ⟨other, otherWrote, past, output⟩⟩
  · simp only [writeLine, wrote, otherWrote]
    exact Or.inl (quiet.alike still)
  · simp only [writeLine, wrote, otherWrote]
    rw [← quiet.output written] at past output
    exact Or.inr ⟨past, other, rfl, output⟩

theorem limits_copyByte {copy : Copy} {byte : UInt8} {stage : Copy → Stage}
    {after : Sink → Step} (isLimited : sink.IsLimited total refusal limited)
    (quiet : IsQuiet total refusal after) :
    let step := fun sink => copyByte copy sink byte (fun copy => goOn (stage copy) relayed) after
    (step sink).Limits total refusal .refused (step limited) := by
  have behind : IsQuiet total refusal fun sink =>
      if copy.remaining ≤ 1 then endCopy sink after else goOn (stage copy.next) relayed sink := by
    by_cases last : copy.remaining ≤ 1
    · simp only [last, if_true]
      exact quiet.endCopy
    · simp only [last, if_false]
      exact isQuiet_goOn _ _
  rcases isLimited.write [byte] with
    ⟨written, wrote, _, ⟨other, otherWrote, still⟩ | ⟨other, otherWrote, past, output⟩⟩
  · simp only [copyByte, wrote, otherWrote]
    exact Or.inl (behind.alike still)
  · simp only [copyByte, wrote, otherWrote]
    rw [← behind.output written] at past output
    exact Or.inr ⟨past, other, rfl, output⟩

theorem limits_lineByte {line : Array UInt8} {byte : UInt8}
    {stage : Array UInt8 → Stage} {after : Bytes → Bytes → Sink → Step}
    (isLimited : sink.IsLimited total refusal limited)
    (behind : ∀ content whole,
      (after content whole sink).Limits total refusal .failed (after content whole limited)) :
    let step := fun sink => lineByte line sink byte (fun line => goOn (stage line) relayed) after
    (step sink).Limits total refusal .failed (step limited) := by
  simp only [lineByte]
  cases Line.accept lineLimit line byte with
  | more longer => exact Or.inl (.more ⟨_, isLimited, rfl⟩)
  | tooLong => exact Or.inl (.failed ⟨_, isLimited, rfl⟩)
  | complete content => exact behind content _

theorem limits_afterSizeLine (isLimited : sink.IsLimited total refusal limited)
    (content line : Bytes) :
    (afterSizeLine relayed content line sink).Limits total refusal .failed
      (afterSizeLine relayed content line limited) := by
  simp only [afterSizeLine]
  cases ChunkSize.ofLine content with
  | error error => exact Or.inl (.failed ⟨_, isLimited, rfl⟩)
  | ok size => exact limits_writeLine isLimited (isQuiet_goOn _ _)

theorem limits_afterChunkEnd (isLimited : sink.IsLimited total refusal limited)
    (content line : Bytes) :
    (afterChunkEnd relayed content line sink).Limits total refusal .failed
      (afterChunkEnd relayed content line limited) := by
  simp only [afterChunkEnd]
  split
  · exact limits_writeLine isLimited (isQuiet_goOn _ _)
  · exact Or.inl (.failed ⟨_, isLimited, rfl⟩)

theorem limits_afterTrailer (isLimited : sink.IsLimited total refusal limited)
    (content line : Bytes) :
    (afterTrailer relayed content line sink).Limits total refusal .failed
      (afterTrailer relayed content line limited) := by
  simp only [afterTrailer]
  apply limits_writeLine isLimited
  split
  · exact isQuiet_finish _
  · exact isQuiet_goOn _ _

/-- How a stage fails when its write does: a copy has not taken the byte. -/
def failure (body : Body) (broken : Broken) : Step :=
  if body.copy?.isSome then .refused broken else .failed broken

/-- One byte does the same to both sinks, or it is the first that the limited one does not take. -/
theorem limits_accept (body : Body) (byte : UInt8)
    (isLimited : sink.IsLimited total refusal limited) :
    (accept ⟨body, sink⟩ byte).Limits total refusal body.failure
      (accept ⟨body, limited⟩ byte) := by
  rcases body with ⟨stage, relayed⟩
  cases stage with
  | fixed copy => exact limits_copyByte isLimited (isQuiet_finish _)
  | chunk copy => exact limits_copyByte isLimited (isQuiet_goOn _ _)
  | sizeLine line =>
      exact limits_lineByte isLimited
        fun content whole => limits_afterSizeLine isLimited content whole
  | chunkEnd line =>
      exact limits_lineByte isLimited
        fun content whole => limits_afterChunkEnd isLimited content whole
  | trailer line =>
      exact limits_lineByte isLimited
        fun content whole => limits_afterTrailer isLimited content whole

theorem segmentEndError_rel (body : Body) (isLimited : sink.IsLimited total refusal limited) :
    Option.Rel (likeness total refusal).error (segmentEndError ⟨body, sink⟩)
      (segmentEndError ⟨body, limited⟩) := by
  simp only [segmentEndError]
  split
  · exact .some ⟨_, isLimited, rfl⟩
  · exact .none

theorem waitError_rel (body : Body) (isLimited : sink.IsLimited total refusal limited) :
    Option.Rel (likeness total refusal).error (waitError ⟨body, sink⟩)
      (waitError ⟨body, limited⟩) := by
  simp only [waitError, isLimited.flush]
  split
  · split
    · exact .none
    · exact .some ⟨_, isLimited, rfl⟩
  · exact .none

theorem cutError_like (body : Body) (cut : Cut) (isLimited : sink.IsLimited total refusal limited) :
    (likeness total refusal).error (cutError ⟨body, sink⟩ cut) (cutError ⟨body, limited⟩ cut) := by
  refine ⟨limited, isLimited, ?_⟩
  simp only [cutError, shortError, isLimited.flush]

end Steps

end Body

namespace Pass

/-- Passes that differ in the room of their sinks. -/
def likeness (total : Nat) (refusal : FaultKind) : Likeness (Flow Pass) Delivered Abandoned where
  state flow other :=
    ∃ limited, flow.sink.IsLimited total refusal limited ∧ other = { flow with sink := limited }
  value delivered other :=
    ∃ limited, delivered.sink.IsLimited total refusal limited ∧
      other = { delivered with sink := limited }
  error abandoned other :=
    ∃ limited, abandoned.sink.IsLimited total refusal limited ∧
      other = { abandoned with sink := limited }

/-- What was written after a step. -/
def Step.output : Step → Bytes
  | .more flow => flow.sink.output
  | .done delivered => delivered.sink.output
  | .failed abandoned | .refused abandoned => abandoned.sink.output

/-- The header that is accepted after a step. -/
def Step.header? : Step → Option Header
  | .more flow => flow.progress.header?
  | .done delivered => some delivered.header
  | .failed abandoned | .refused abandoned => abandoned.accepted

/-- How a pass fails when its write does. -/
def failure (pass : Pass) (abandoned : Abandoned) : Step :=
  match pass with
  | .receiving _ => .failed abandoned
  | .relaying _ body => if body.copy?.isSome then .refused abandoned else .failed abandoned

theorem failure_eq (pass : Pass) (abandoned : Abandoned) :
    pass.failure abandoned = .failed abandoned ∨ pass.failure abandoned = .refused abandoned := by
  cases pass with
  | receiving receiver => exact Or.inl rfl
  | relaying header body =>
      rw [failure]
      split
      · exact Or.inr rfl
      · exact Or.inl rfl

/-- A step into a limited sink that fails where a step writes past the total. The header was
accepted before. -/
def Step.IsCutShort (total : Nat) (refusal : FaultKind) (fail : Abandoned → Step)
    (step other : Step) : Prop :=
  total < step.output.length ∧
    ∃ header sink, step.header? = some header ∧
      other = fail (ofBroken header ⟨.fault (.ofKind refusal), sink⟩) ∧
      sink.output = step.output.take total

variable {total : Nat} {refusal : FaultKind} {sink limited : Sink}

section OfBodyStep

variable {step other : Body.Step}

@[simp]
theorem output_ofBodyStep (header : Header) (step : Body.Step) :
    (ofBodyStep header step).output = step.output := by
  cases step <;> rfl

@[simp]
theorem header?_ofBodyStep (header : Header) (step : Body.Step) :
    (ofBodyStep header step).header? = some header := by
  cases step <;> rfl

theorem like_ofBroken (header : Header) {broken other : Body.Broken}
    (errors : (Body.likeness total refusal).error broken other) :
    (likeness total refusal).error (ofBroken header broken) (ofBroken header other) := by
  rcases errors with ⟨limited, isLimited, rfl⟩
  exact ⟨limited, isLimited, rfl⟩

theorem rel_map_ofBroken (header : Header) {broken? other? : Option Body.Broken}
    (errors : Option.Rel (Body.likeness total refusal).error broken? other?) :
    Option.Rel (likeness total refusal).error (broken?.map (ofBroken header))
      (other?.map (ofBroken header)) := by
  cases errors with
  | none => exact .none
  | some errors => exact .some (like_ofBroken header errors)

theorem isLike_ofBodyStep (header : Header)
    (alike : step.IsLike (Body.likeness total refusal) other) :
    (ofBodyStep header step).IsLike (likeness total refusal) (ofBodyStep header other) := by
  cases alike with
  | more states =>
      rcases states with ⟨limited, isLimited, rfl⟩
      exact .more ⟨limited, isLimited, rfl⟩
  | done values =>
      rcases values with ⟨limited, isLimited, rfl⟩
      exact .done ⟨limited, isLimited, rfl⟩
  | failed errors => exact .failed (like_ofBroken header errors)
  | refused errors => exact .refused (like_ofBroken header errors)

theorem ofBodyStep_failure (header : Header) (body : Body) (broken : Body.Broken) :
    ofBodyStep header (body.failure broken) =
      (Pass.relaying header body).failure (ofBroken header broken) := by
  simp only [Body.failure, failure]
  split <;> rfl

end OfBodyStep

theorem output_forward (header : Header) (unbounded : sink.room = none) :
    (forward header sink).output = sink.output ++ header.encode := by
  have output := Sink.output_write_none header.encode sink unbounded
  cases wrote : sink.write header.encode with
  | mk written fault =>
      rw [wrote] at output
      cases fault with
      | none =>
          rw [forward_of_written wrote, output_ofBodyStep, Body.output_start]
          exact output
      | some fault =>
          rw [forward_of_fault wrote]
          exact output

theorem header?_forward (header : Header) (sink : Sink) :
    (forward header sink).header? = some header := by
  rw [forward]
  split
  · rfl
  · exact header?_ofBodyStep _ _

theorem limits_forward (header : Header) (isLimited : sink.IsLimited total refusal limited) :
    (forward header sink).IsLike (likeness total refusal) (forward header limited) ∨
      (forward header sink).IsCutShort total refusal .failed (forward header limited) := by
  have quiet : Body.IsQuiet total refusal (Body.start header.framing) := Body.isQuiet_start _
  rcases isLimited.write header.encode with
    ⟨written, wrote, _, ⟨other, otherWrote, still⟩ | ⟨other, otherWrote, past, output⟩⟩
  · rw [forward_of_written wrote, forward_of_written otherWrote]
    exact Or.inl (isLike_ofBodyStep header (quiet.alike still))
  · rw [forward_of_written wrote, forward_of_fault otherWrote]
    refine Or.inr ⟨?_, header, other, header?_ofBodyStep _ _, rfl, ?_⟩
    · rw [output_ofBodyStep, quiet.output]
      exact past
    · rw [output_ofBodyStep, quiet.output]
      exact output

/-- One byte does the same to both sinks, or it is the first that the limited one does not take. -/
theorem limits_accept (pass : Pass) (byte : UInt8)
    (isLimited : sink.IsLimited total refusal limited) :
    (accept ⟨pass, sink⟩ byte).IsLike (likeness total refusal) (accept ⟨pass, limited⟩ byte) ∨
      (accept ⟨pass, sink⟩ byte).IsCutShort total refusal pass.failure
        (accept ⟨pass, limited⟩ byte) := by
  cases pass with
  | receiving receiver =>
      simp only [accept]
      cases receiver.accept byte with
      | more next => exact Or.inl (.more ⟨_, isLimited, rfl⟩)
      | done header => exact limits_forward header isLimited
      | failed error => exact Or.inl (.failed ⟨_, isLimited, rfl⟩)
      | refused error => exact Or.inl (.refused ⟨_, isLimited, rfl⟩)
  | relaying header body =>
      rw [accept_relaying, accept_relaying]
      rcases Body.limits_accept body byte isLimited with alike | ⟨past, cut, failed, output⟩
      · exact Or.inl (isLike_ofBodyStep header alike)
      · refine Or.inr ⟨?_, header, cut, header?_ofBodyStep _ _, ?_, ?_⟩
        · rw [output_ofBodyStep]
          exact past
        · rw [failed, ofBodyStep_failure]
        · rw [output_ofBodyStep]
          exact output

theorem isAlikeUntil_scanner (total : Nat) (refusal : FaultKind) :
    scanner.IsAlikeUntil (likeness total refusal) fun flow byte verdict =>
      (accept flow byte).IsCutShort total refusal flow.progress.failure verdict where
  accept := by
    rintro ⟨pass, sink⟩ other byte ⟨limited, isLimited, rfl⟩
    exact limits_accept pass byte isLimited
  fails := by
    rintro ⟨pass, sink⟩ byte verdict ⟨_, header, cut, _, rfl, _⟩
    exact ⟨_, failure_eq pass _⟩
  atSegmentEnd := by
    rintro ⟨pass, sink⟩ other ⟨limited, isLimited, rfl⟩
    cases pass with
    | receiving receiver =>
        simp only [scanner]
        cases Receiver.scanner.atSegmentEnd receiver with
        | none => exact .none
        | some error => exact .some ⟨limited, isLimited, rfl⟩
    | relaying header body =>
        exact rel_map_ofBroken header (Body.segmentEndError_rel body isLimited)
  atWait := by
    rintro ⟨pass, sink⟩ other ⟨limited, isLimited, rfl⟩
    cases pass with
    | receiving receiver => exact .none
    | relaying header body => exact rel_map_ofBroken header (Body.waitError_rel body isLimited)
  atCut := by
    rintro ⟨pass, sink⟩ other cut ⟨limited, isLimited, rfl⟩
    cases pass with
    | receiving receiver => exact ⟨limited, isLimited, rfl⟩
    | relaying header body => exact like_ofBroken header (Body.cutError_like body cut isLimited)

/-- A pass keeps its header and what it has written under it. -/
theorem keeps_written (header : Header) (written : Bytes) :
    scanner.Keeps
      (fun flow => flow.progress.header? = some header ∧ written <+: flow.sink.output)
      (fun delivered => delivered.header = header ∧ written <+: delivered.sink.output)
      (fun abandoned => abandoned.accepted = some header ∧ written <+: abandoned.sink.output) := by
  have atEnd : ∀ {flow : Flow Pass} {abandoned : Abandoned}, abandoned.IsAt flow →
      flow.progress.header? = some header ∧ written <+: flow.sink.output →
        abandoned.accepted = some header ∧ written <+: abandoned.sink.output := by
    rintro flow abandoned isAt ⟨accepted, isPrefix⟩
    rw [isAt.accepted, isAt.sink]
    exact ⟨accepted, isPrefix⟩
  constructor
  · rintro ⟨receiver | ⟨accepted, body⟩, sink⟩ byte ⟨has, isPrefix⟩
    · cases has
    · cases has
      have grows := @Body.writes_accept sink ⟨body, sink⟩ (Sink.Grows.refl sink) byte
      rw [show scanner.accept ⟨.relaying header body, sink⟩ byte =
        ofBodyStep header (Body.accept ⟨body, sink⟩ byte) from accept_relaying]
      cases stepped : Body.accept ⟨body, sink⟩ byte with
      | more next =>
          rw [stepped] at grows
          exact ⟨rfl, isPrefix.trans grows.1.output⟩
      | done relayed =>
          rw [stepped] at grows
          exact ⟨rfl, isPrefix.trans grows.1.output⟩
      | failed broken =>
          rw [stepped] at grows
          exact ⟨rfl, isPrefix.trans grows.1.output⟩
      | refused broken =>
          rw [stepped] at grows
          exact ⟨rfl, isPrefix.trans grows.1.output⟩
  · intro flow abandoned holds ended
    exact atEnd (isAt_of_segmentEnd ended) holds
  · intro flow abandoned holds waited
    exact atEnd (isAt_of_wait waited) holds
  · intro flow cut holds
    exact atEnd (isAt_cut flow cut) holds

/-- What a step has written is kept under its header. -/
theorem holds_written {step : Step} {header : Header} (accepted : step.header? = some header) :
    step.Holds (fun flow => flow.progress.header? = some header ∧ step.output <+: flow.sink.output)
      (fun delivered => delivered.header = header ∧ step.output <+: delivered.sink.output)
      (fun abandoned =>
        abandoned.accepted = some header ∧ step.output <+: abandoned.sink.output) := by
  cases step with
  | more flow => exact ⟨accepted, List.prefix_rfl⟩
  | done delivered => exact ⟨Option.some.inj accepted, List.prefix_rfl⟩
  | failed abandoned => exact ⟨accepted, List.prefix_rfl⟩
  | refused abandoned => exact ⟨accepted, List.prefix_rfl⟩

end Pass

end HttpRelay
