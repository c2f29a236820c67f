import HttpRelay.Relay.Sequence
import HttpRelay.Proofs.Message.LineLimit

/-!
# The steps of a relay

What a byte can do to a relay, told apart by the part of the message that it belongs to. A
step of a pass is a step of the receiver or a step of the body, in the form that the pass
gives it; the lemmas below read a step of a pass back into those two, so that no later proof
opens the definition. As a first use, the two scanners of a relay are steady.
-/

namespace HttpRelay

namespace Body

theorem segmentEndError_eq_some_iff {flow : Flow Body} {broken : Broken} :
    segmentEndError flow = some broken ↔
      (∃ line, flow.progress.line? = some line ∧ Line.isTooLong lineLimit line = true) ∧
        ⟨.lineTooLong, flow.sink⟩ = broken := by
  simp only [segmentEndError]
  cases flow.progress.line? <;> simp

theorem lineByte_of_isTooLong {sink : Sink} {relayed : Nat} {line : Array UInt8}
    {stage : Array UInt8 → Stage} {after : Bytes → Bytes → Sink → Step}
    (reads : ∀ line, (Body.mk (stage line) relayed).line? = some line)
    (tooLong : Line.isTooLong lineLimit line = true) (byte : UInt8) :
    lineByte line sink byte (fun line => goOn (stage line) relayed) after =
        .failed ⟨.lineTooLong, sink⟩ ∨
      ∃ next, lineByte line sink byte (fun line => goOn (stage line) relayed) after = .more next ∧
        segmentEndError next = some ⟨.lineTooLong, sink⟩ := by
  simp only [lineByte]
  rcases Line.accept_of_isTooLong tooLong byte with refused | ⟨accepted, stillTooLong⟩
  · left
    simp only [refused]
  · right
    simp only [accepted]
    exact ⟨_, rfl, segmentEndError_eq_some_iff.mpr ⟨⟨_, reads _, stillTooLong⟩, rfl⟩⟩

theorem finish_of_flush {count : Nat} {sink : Sink} (flushed : sink.flush = none) :
    finish count sink = .done ⟨count, sink⟩ := by
  simp only [finish, flushed]

theorem finish_of_fault {count : Nat} {sink : Sink} {fault : Fault}
    (flushed : sink.flush = some fault) : finish count sink = .failed ⟨.fault fault, sink⟩ := by
  simp only [finish, flushed]

theorem endCopy_of_flush {sink : Sink} {goOn : Sink → Step} (flushed : sink.flush = none) :
    endCopy sink goOn = goOn sink := by
  simp only [endCopy, flushed]

theorem endCopy_of_fault {sink : Sink} {goOn : Sink → Step} {fault : Fault}
    (flushed : sink.flush = some fault) : endCopy sink goOn = .failed ⟨.fault fault, sink⟩ := by
  simp only [endCopy, flushed]

theorem start_ne_refused {framing : Framing} {sink : Sink} {broken : Broken} :
    start framing sink ≠ .refused broken := by
  have finish_ne_refused : finish 0 sink ≠ .refused broken := by
    simp only [finish]
    split <;> simp
  cases framing with
  | empty => exact finish_ne_refused
  | length count =>
      cases count with
      | zero =>
          change endCopy sink (finish 0) ≠ .refused broken
          simp only [endCopy]
          split
          · simp
          · exact finish_ne_refused
      | succ count => simp [start, goOn]
  | chunked => simp [start, goOn]

theorem steady_scanner : scanner.Steady fun _ => True where
  valid_accept := fun _ _ => trivial
  accept_of_due := by
    rintro ⟨⟨stage, relayed⟩, sink⟩ error byte - due
    rcases segmentEndError_eq_some_iff.mp due with ⟨⟨line, reading, tooLong⟩, rfl⟩
    cases stage with
    | fixed copy => cases reading
    | chunk copy => cases reading
    | sizeLine line =>
        cases reading
        exact lineByte_of_isTooLong (fun _ => rfl) tooLong byte
    | chunkEnd line =>
        cases reading
        exact lineByte_of_isTooLong (fun _ => rfl) tooLong byte
    | trailer line =>
        cases reading
        exact lineByte_of_isTooLong (fun _ => rfl) tooLong byte

end Body

namespace Pass

section OfBodyStep

variable {header : Header} {step : Body.Step}

theorem ofBodyStep_eq_more_iff {flow : Flow Pass} :
    ofBodyStep header step = .more flow ↔
      ∃ body, step = .more ⟨body, flow.sink⟩ ∧ flow.progress = .relaying header body := by
  rcases flow with ⟨progress, sink⟩
  cases step with
  | more next =>
      rcases next with ⟨body, bodySink⟩
      simp only [ofBodyStep, Verdict.more.injEq, Flow.mk.injEq]
      constructor
      · rintro ⟨rfl, rfl⟩
        exact ⟨body, ⟨rfl, rfl⟩, rfl⟩
      · rintro ⟨_, ⟨rfl, rfl⟩, rfl⟩
        exact ⟨rfl, rfl⟩
  | done relayed => simp [ofBodyStep]
  | failed broken => simp [ofBodyStep]
  | refused broken => simp [ofBodyStep]

theorem ofBodyStep_eq_failed_iff {abandoned : Abandoned} :
    ofBodyStep header step = .failed abandoned ↔
      ∃ broken, step = .failed broken ∧ ofBroken header broken = abandoned := by
  cases step <;> simp [ofBodyStep]

theorem ofBodyStep_eq_refused_iff {abandoned : Abandoned} :
    ofBodyStep header step = .refused abandoned ↔
      ∃ broken, step = .refused broken ∧ ofBroken header broken = abandoned := by
  cases step <;> simp [ofBodyStep]

end OfBodyStep

variable {receiver : Receiver} {header : Header} {body : Body} {sink : Sink} {byte : UInt8}

theorem accept_relaying :
    accept ⟨.relaying header body, sink⟩ byte = ofBodyStep header (Body.accept ⟨body, sink⟩ byte) :=
  rfl

/-- A pass that goes on while it receives a header has written nothing, unless the byte was
the last of the header. -/
theorem accept_receiving_eq_more_iff {flow : Flow Pass} :
    accept ⟨.receiving receiver, sink⟩ byte = .more flow ↔
      (∃ next, receiver.accept byte = .more next ∧ flow = ⟨.receiving next, sink⟩) ∨
        ∃ header, receiver.accept byte = .done header ∧ forward header sink = .more flow := by
  simp only [accept]
  cases receiver.accept byte <;> simp [eq_comm]

theorem accept_receiving_eq_failed_iff {abandoned : Abandoned} :
    accept ⟨.receiving receiver, sink⟩ byte = .failed abandoned ↔
      (∃ error, receiver.accept byte = .failed error ∧
          ofHeaderError true sink error = abandoned) ∨
        ∃ header, receiver.accept byte = .done header ∧
          forward header sink = .failed abandoned := by
  simp only [accept]
  cases receiver.accept byte <;> simp

theorem accept_receiving_eq_refused_iff {abandoned : Abandoned} :
    accept ⟨.receiving receiver, sink⟩ byte = .refused abandoned ↔
      (∃ error, receiver.accept byte = .refused error ∧
          ofHeaderError receiver.hasStarted sink error = abandoned) ∨
        ∃ header, receiver.accept byte = .done header ∧
          forward header sink = .refused abandoned := by
  simp only [accept]
  cases receiver.accept byte <;> simp

theorem forward_of_written {written : Sink} (wrote : sink.write header.encode = (written, none)) :
    forward header sink = ofBodyStep header (Body.start header.framing written) := by
  simp only [forward, wrote]

theorem forward_of_fault {written : Sink} {fault : Fault}
    (wrote : sink.write header.encode = (written, some fault)) :
    forward header sink = .failed (ofBroken header ⟨.fault fault, written⟩) := by
  simp only [forward, wrote]

theorem exists_broken_of_forward_failed {abandoned : Abandoned}
    (forwarded : forward header sink = .failed abandoned) :
    ∃ broken, ofBroken header broken = abandoned := by
  cases wrote : sink.write header.encode with
  | mk written fault =>
      cases fault with
      | none =>
          simp only [forward_of_written wrote, ofBodyStep_eq_failed_iff] at forwarded
          rcases forwarded with ⟨broken, _, abandonedEq⟩
          exact ⟨broken, abandonedEq⟩
      | some fault =>
          simp only [forward_of_fault wrote, Verdict.failed.injEq] at forwarded
          exact ⟨_, forwarded⟩

theorem forward_ne_refused {abandoned : Abandoned} : forward header sink ≠ .refused abandoned := by
  intro forwarded
  cases wrote : sink.write header.encode with
  | mk written fault =>
      cases fault with
      | none =>
          simp only [forward_of_written wrote, ofBodyStep_eq_refused_iff] at forwarded
          rcases forwarded with ⟨broken, started, _⟩
          exact Body.start_ne_refused started
      | some fault =>
          simp only [forward_of_fault wrote] at forwarded
          cases forwarded

theorem exists_body_of_forward {flow : Flow Pass} (forwarded : forward header sink = .more flow) :
    ∃ body, flow.progress = .relaying header body := by
  cases wrote : sink.write header.encode with
  | mk written fault =>
      cases fault with
      | none =>
          simp only [forward_of_written wrote, ofBodyStep_eq_more_iff] at forwarded
          rcases forwarded with ⟨body, _, progress⟩
          exact ⟨body, progress⟩
      | some fault =>
          simp only [forward_of_fault wrote] at forwarded
          cases forwarded

/-- A pass knows that its message has begun when a line of the header is too long. -/
def LineWithinTaken (flow : Flow Pass) : Prop :=
  match flow.progress with
  | .receiving receiver => receiver.LineWithinTaken
  | .relaying _ _ => True

theorem lineWithinTaken_of_forward {flow : Flow Pass}
    (forwarded : forward header sink = .more flow) : LineWithinTaken flow := by
  rcases exists_body_of_forward forwarded with ⟨body, progress⟩
  simp [LineWithinTaken, progress]

theorem steady_scanner : scanner.Steady LineWithinTaken where
  valid_accept := by
    rintro ⟨progress, sink⟩ next byte within accepted
    cases progress with
    | receiving receiver =>
        rcases accept_receiving_eq_more_iff.mp accepted with
          ⟨nextReceiver, received, rfl⟩ | ⟨header, _, forwarded⟩
        · exact Receiver.steady_scanner.valid_accept within received
        · exact lineWithinTaken_of_forward forwarded
    | relaying header body =>
        rcases ofBodyStep_eq_more_iff.mp accepted with ⟨nextBody, _, progress⟩
        simp [LineWithinTaken, progress]
  accept_of_due := by
    rintro ⟨progress, sink⟩ error byte within due
    cases progress with
    | receiving receiver =>
        rcases Option.map_eq_some_iff.mp due with ⟨headerError, receiverDue, rfl⟩
        rcases Receiver.atSegmentEnd_eq_some_iff.mp receiverDue with ⟨tooLong, _⟩
        simp only [Receiver.hasStarted_of_isTooLong within tooLong]
        rcases Receiver.steady_scanner.accept_of_due byte within receiverDue with
          failed | ⟨next, accepted, stillDue⟩
        · exact Or.inl (accept_receiving_eq_failed_iff.mpr (Or.inl ⟨headerError, failed, rfl⟩))
        · refine Or.inr ⟨⟨.receiving next, sink⟩, ?_, ?_⟩
          · exact accept_receiving_eq_more_iff.mpr (Or.inl ⟨next, accepted, rfl⟩)
          · have nextWithin := Receiver.steady_scanner.valid_accept within accepted
            rcases Receiver.atSegmentEnd_eq_some_iff.mp stillDue with ⟨nextTooLong, _⟩
            have started := Receiver.hasStarted_of_isTooLong nextWithin nextTooLong
            simp only [scanner, stillDue, started, Option.map_some]
    | relaying header body =>
        rcases Option.map_eq_some_iff.mp due with ⟨broken, bodyDue, rfl⟩
        rcases Body.steady_scanner.accept_of_due byte trivial bodyDue with
          failed | ⟨next, accepted, stillDue⟩
        · exact Or.inl (ofBodyStep_eq_failed_iff.mpr ⟨broken, failed, rfl⟩)
        · refine Or.inr ⟨⟨.relaying header next.progress, next.sink⟩, ?_, ?_⟩
          · exact ofBodyStep_eq_more_iff.mpr ⟨next.progress, accepted, rfl⟩
          · simp only [scanner, stillDue, Option.map_some]

end Pass

section Sequence

variable {kind : Kind} {limits : Limits} {count time : Nat} {sink : Sink} {source : Source}
  {items : List Source.Item}

theorem relaySequence_of_done {delivered : Pass.Delivered}
    (ran : Pass.scanner.read ⟨.start kind limits, sink.forgetOutput⟩ source =
      ⟨time, .done delivered, items⟩) :
    relaySequence kind limits (count + 1) sink source =
      (.received delivered.header (.ok delivered.count) delivered.sink.output ::
          (relaySequence kind limits count delivered.sink ⟨items, source.ending⟩).1,
        (relaySequence kind limits count delivered.sink ⟨items, source.ending⟩).2) := by
  simp only [relaySequence, ran]

theorem relaySequence_of_failed {abandoned : Pass.Abandoned}
    (ran : Pass.scanner.read ⟨.start kind limits, sink.forgetOutput⟩ source =
      ⟨time, .failed abandoned, items⟩) :
    relaySequence kind limits (count + 1) sink source =
      ((MessageReport.ofAbandoned abandoned).toList, ⟨items, source.ending⟩) := by
  simp only [relaySequence, ran]

end Sequence

end HttpRelay
