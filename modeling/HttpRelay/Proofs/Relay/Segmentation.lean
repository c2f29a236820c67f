import HttpRelay.Proofs.Relay.Steps

/-!
# Segmentation is invisible

A sequence of messages is relayed in the same way however its bytes were divided into
segments: the same reports with the same output, and after messages that all went through
the same bytes left unread. This holds for every ending of the source and for every sink.

After a failure what is left may differ, since a line that is too long is given up at the
end of a segment.
-/

namespace HttpRelay

namespace MessageReport

/-- Whether a message went through. -/
def isDelivered : MessageReport → Bool
  | .received _ (.ok _) _ => true
  | .received _ (.error _) _ | .notReceived _ => false

end MessageReport

namespace Pass

/-- Without an alarm a pass can only end early over a header error or a relay error, so its
report is that of a message that did not go through. -/
theorem exists_report_of_failsAt {stop : Flow Pass} {last : Bytes} {abandoned : Abandoned}
    (fails : scanner.FailsAt (fun _ _ _ => none) stop last abandoned) :
    ∃ report, MessageReport.ofAbandoned abandoned = some report ∧ report.isDelivered = false := by
  have ofHeaderError_reports : ∀ hadStarted sink error,
      ∃ report, MessageReport.ofAbandoned (ofHeaderError hadStarted sink error) = some report ∧
        report.isDelivered = false := fun _ _ _ => ⟨_, rfl, rfl⟩
  have ofBroken_reports : ∀ header broken,
      ∃ report, MessageReport.ofAbandoned (ofBroken header broken) = some report ∧
        report.isDelivered = false := fun _ _ => ⟨_, rfl, rfl⟩
  rcases stop with ⟨receiver | ⟨header, body⟩, sink⟩
  · cases fails with
    | onByte accepted =>
        rcases accept_receiving_eq_failed_iff.mp accepted with
          ⟨error, _, rfl⟩ | ⟨header, _, forwarded⟩
        · exact ofHeaderError_reports _ _ _
        · rcases exists_broken_of_forward_failed forwarded with ⟨broken, rfl⟩
          exact ofBroken_reports _ _
    | beforeByte accepted =>
        rcases accept_receiving_eq_refused_iff.mp accepted with
          ⟨error, _, rfl⟩ | ⟨header, _, forwarded⟩
        · exact ofHeaderError_reports _ _ _
        · exact absurd forwarded forward_ne_refused
    | onSegmentEnd ended =>
        rcases Option.map_eq_some_iff.mp ended with ⟨error, _, rfl⟩
        exact ofHeaderError_reports _ _ _
    | onWait waited =>
        -- A receiver waits without giving up.
        cases waited
    | onCut cut => exact ofHeaderError_reports _ _ _
    | onAlarm rang => cases rang
  · cases fails with
    | onByte accepted =>
        rcases ofBodyStep_eq_failed_iff.mp accepted with ⟨broken, _, rfl⟩
        exact ofBroken_reports _ _
    | beforeByte accepted =>
        rcases ofBodyStep_eq_refused_iff.mp accepted with ⟨broken, _, rfl⟩
        exact ofBroken_reports _ _
    | onSegmentEnd ended =>
        rcases Option.map_eq_some_iff.mp ended with ⟨broken, _, rfl⟩
        exact ofBroken_reports _ _
    | onWait waited =>
        rcases Option.map_eq_some_iff.mp waited with ⟨broken, _, rfl⟩
        exact ofBroken_reports _ _
    | onCut cut => exact ofBroken_reports _ _
    | onAlarm rang => cases rang

/-- A pass that failed without an alarm is reported, and not as a success. -/
theorem exists_report_of_read_failed {flow : Flow Pass} {source : Source} {time : Nat}
    {abandoned : Abandoned} {items : List Source.Item}
    (ran : scanner.read flow source = ⟨time, .failed abandoned, items⟩) :
    ∃ report, MessageReport.ofAbandoned abandoned = some report ∧ report.isDelivered = false := by
  rcases scanner.exists_stop_run (fun _ _ _ => none) source.ending 0 flow source.items with
    ⟨taken, stop, stopped⟩
  have ended := stopped.ended
  rw [show scanner.run (fun _ _ _ => none) source.ending 0 flow source.items =
    ⟨time, .failed abandoned, items⟩ from ran] at ended
  rcases ended with ⟨last, fails, _⟩
  exact exists_report_of_failsAt fails

end Pass

section Sequence

variable {kind : Kind} {limits : Limits} {sink : Sink} {ending : Source.Ending}

/-- The run for one message over segments, in terms of their bytes. -/
theorem runsAs_read_segments (kind : Kind) (limits : Limits) (sink : Sink)
    (ending : Source.Ending) (segments : List Bytes) :
    Pass.scanner.RunsAs (fun _ _ _ => none) ending 0
      (Pass.scanner.read ⟨.start kind limits, sink⟩ (.ofSegments segments ending))
      (Pass.scanner.feed ⟨.start kind limits, sink⟩ segments.flatten) :=
  Pass.steady_scanner.run_segments (fun _ _ _ => none) ending 0 (Nat.zero_le _) rfl segments

/-- What a sequence reports, and the bytes that it leaves if all messages went through, are
the same for any two divisions of the bytes. -/
theorem relaySequence_segments_congr (kind : Kind) (limits : Limits) (count : Nat) (sink : Sink)
    (ending : Source.Ending) {first second : List Bytes}
    (sameBytes : first.flatten = second.flatten) :
    (relaySequence kind limits count sink (.ofSegments first ending)).1 =
        (relaySequence kind limits count sink (.ofSegments second ending)).1 ∧
      ((∀ report ∈ (relaySequence kind limits count sink (.ofSegments first ending)).1,
          report.isDelivered = true) →
        (relaySequence kind limits count sink (.ofSegments first ending)).2.unread =
          (relaySequence kind limits count sink (.ofSegments second ending)).2.unread) := by
  induction count generalizing sink first second with
  | zero =>
      refine ⟨rfl, fun _ => ?_⟩
      simp only [relaySequence, Source.unread_ofSegments, sameBytes]
  | succ count ih =>
      have firstRun := runsAs_read_segments kind limits sink.forgetOutput ending first
      have secondRun := runsAs_read_segments kind limits sink.forgetOutput ending second
      rw [← sameBytes] at secondRun
      cases fed : Pass.scanner.feed ⟨.start kind limits, sink.forgetOutput⟩ first.flatten with
      | more next =>
          -- Both runs took all bytes and stand at the same state.
          simp only [fed] at firstRun secondRun
          have sameRun := firstRun.trans secondRun.symm
          have same : relaySequence kind limits (count + 1) sink (.ofSegments first ending) =
              relaySequence kind limits (count + 1) sink (.ofSegments second ending) := by
            simp only [relaySequence, sameRun]
            rfl
          exact ⟨congrArg Prod.fst same, fun _ => congrArg (Source.unread ∘ Prod.snd) same⟩
      | done delivered rest =>
          simp only [fed] at firstRun secondRun
          rcases firstRun with ⟨firstLeft, firstRest, firstRun⟩
          rcases secondRun with ⟨secondLeft, secondRest, secondRun⟩
          simp only [relaySequence_of_done firstRun, relaySequence_of_done secondRun]
          have others := ih delivered.sink (firstRest.trans secondRest.symm)
          refine ⟨congrArg (List.cons _) others.1, fun allDelivered => others.2 ?_⟩
          intro report reported
          exact allDelivered report (List.mem_cons_of_mem _ reported)
      | failed abandoned rest =>
          simp only [fed] at firstRun secondRun
          rcases firstRun with ⟨firstLeft, firstRun⟩
          rcases secondRun with ⟨secondLeft, secondRun⟩
          rw [relaySequence_of_failed firstRun, relaySequence_of_failed secondRun]
          refine ⟨rfl, fun allDelivered => ?_⟩
          rcases Pass.exists_report_of_read_failed firstRun with ⟨report, reported, notDelivered⟩
          have delivered := allDelivered report (by simp [reported])
          simp only [notDelivered] at delivered
          cases delivered

/-- A response that arrives whole, or with a cut inside a line terminator. -/
theorem relaySequence_cutTerminator_congr :
    let front := Bytes.ofChars ['H', 'T', 'T', 'P', '/', '1', '.', '1', ' ', '2', '0', '0', '\r']
    let back := Bytes.ofChars ['\n', '\r', '\n']
    let sink : Sink := ⟨some 4, .brokenPipe, none, #[]⟩
    let limits : Limits := ⟨64, 8, 64, 1000⟩
    let whole := relaySequence .response limits 2 sink (.ofSegments [front ++ back] .finished)
    let inTwo := relaySequence .response limits 2 sink (.ofSegments [front, back] .finished)
    [front ++ back].flatten = [front, back].flatten ∧ whole.1 = inTwo.1 ∧
      ((∀ report ∈ whole.1, report.isDelivered = true) → whole.2.unread = inTwo.2.unread) := by
  intro front back sink limits whole inTwo
  have sameBytes : [front ++ back].flatten = [front, back].flatten := by
    decide
  exact ⟨sameBytes, relaySequence_segments_congr _ _ _ _ _ sameBytes⟩

end Sequence

end HttpRelay
