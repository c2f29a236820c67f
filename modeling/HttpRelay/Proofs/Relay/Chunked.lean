import HttpRelay.Proofs.Relay.BodyAccount
import HttpRelay.Proofs.Relay.SizeLine

/-!
# Relaying a chunked body

A relay of a body in chunks ends well exactly if its source begins with such a body and its
sink takes it (`read_chunked`). However it ends otherwise, the bytes that it took are the ones
that it wrote, in order, with at most a rejected line behind them. For the ends that a relay
can come to, the facts below hold for every framing.
-/

namespace HttpRelay

namespace Body

variable {framing : Framing} {origin : Sink} {taken consumed : Bytes} {flow : Flow Body}
  {broken : Broken}

theorem leavesOut_of_fault {fault : Fault} (isFault : broken.error = .fault fault)
    (grows : origin.Grows broken.sink) (isPrefix : broken.sink.output <+: origin.output ++ taken) :
    broken.LeavesOut origin taken := by
  rcases grows.output with ⟨written, output⟩
  rw [← output, List.prefix_append_right_inj] at isPrefix
  rcases isPrefix with ⟨others, split⟩
  refine ⟨written, others, split.symm, output.symm, ?_⟩
  rw [isFault]
  trivial

theorem Broken.Accounts.fault_or_leavesOut (accounts : broken.Accounts origin taken) :
    (∃ fault, broken.error = .fault fault) ∨ broken.LeavesOut origin taken := by
  rw [Broken.Accounts] at accounts
  split at accounts
  · rename_i fault isFault
    exact Or.inl ⟨fault, isFault⟩
  all_goals exact Or.inr accounts

namespace Accounts

theorem leavesOut_of_failed {byte : UInt8} (accounts : Accounts framing origin taken flow)
    (accepted : Body.accept flow byte = .failed broken) :
    broken.LeavesOut origin (taken ++ [byte]) := by
  have step := accounts.step byte
  have tracks := accounts.toTracks.accept byte
  rw [accepted] at step tracks
  rcases Broken.Accounts.fault_or_leavesOut step with ⟨fault, isFault⟩ | leavesOut
  · exact leavesOut_of_fault isFault tracks.2.1 tracks.2.2
  · exact leavesOut

/-- An end at which nothing is written leaves out the line that is being read. -/
theorem leavesOut_of_rejects (accounts : Accounts framing origin taken flow)
    (sink : broken.sink = flow.sink) (rejects : Rejects broken.error flow.progress.pending) :
    broken.LeavesOut origin taken := by
  rcases accounts.wrote with ⟨written, split, wrote⟩
  refine ⟨written, flow.progress.pending, split.symm, ?_, rejects⟩
  rw [sink]
  exact Sink.output_of_written wrote

theorem leavesOut_of_refused {byte : UInt8} (accounts : Accounts framing origin taken flow)
    (refused : Body.accept flow byte = .refused broken) : broken.LeavesOut origin taken := by
  have follows := follows_accept accounts.inProgress byte
  have step := accounts.step byte
  rw [refused] at follows step
  rcases follows with ⟨fault, error⟩
  refine ⟨taken, [], (List.append_nil taken).symm, ?_, ?_⟩
  · have output := step.2
    rwa [List.dropLast_concat] at output
  · rw [error]
    trivial

/-- A line that is being read has no line feed, and no line is being read in a copy. -/
theorem pending_of_line? (accounts : Accounts framing origin taken flow) :
    match flow.progress.line? with
    | some line =>
        flow.progress.pending = line.toList ∧ Bytes.lineFeed ∉ line.toList ∧
          flow.progress.copy? = none
    | none => flow.progress.pending = [] ∧ flow.progress.copy?.isSome := by
  have stands := accounts.stands
  rcases flow with ⟨⟨stage, relayed⟩, sink⟩
  cases stage with
  | fixed copy => exact ⟨rfl, rfl⟩
  | chunk copy => exact ⟨rfl, rfl⟩
  | sizeLine line => exact ⟨rfl, stands.1, rfl⟩
  | chunkEnd line => exact ⟨rfl, stands.1, rfl⟩
  | trailer line => exact ⟨rfl, stands.1, rfl⟩

theorem leavesOut_of_segmentEnd (accounts : Accounts framing origin taken flow)
    (ended : segmentEndError flow = some broken) : broken.LeavesOut origin taken := by
  rcases segmentEndError_eq_some_iff.mp ended with ⟨⟨line, reading, tooLong⟩, rfl⟩
  have pending := accounts.pending_of_line?
  rw [reading] at pending
  apply accounts.leavesOut_of_rejects rfl
  have longer := Line.length_le_length_content_add_one line.toList
  rw [Array.length_toList] at longer
  simp only [Line.isTooLong, decide_eq_true_eq] at tooLong
  exact ⟨line.toList, pending.2.1, by omega, Or.inl pending.1⟩

theorem leavesOut_of_wait (accounts : Accounts framing origin taken flow)
    (waited : waitError flow = some broken) : broken.LeavesOut origin taken := by
  simp only [waitError] at waited
  split at waited
  · split at waited
    · cases waited
    · cases waited
      exact accounts.leavesOut_of_rejects rfl trivial
  · cases waited

theorem leavesOut_of_cut (accounts : Accounts framing origin taken flow) (cut : Cut) :
    (cutError flow cut).LeavesOut origin taken := by
  apply accounts.leavesOut_of_rejects rfl
  have pending := accounts.pending_of_line?
  have short : ∀ copy : Copy, flow.progress.pending = [] →
      Rejects (shortError copy flow.sink) flow.progress.pending := by
    intro copy noLine
    rw [shortError]
    split
    · trivial
    · exact noLine
  simp only [cutError]
  cases reading : flow.progress.line? with
  | some line =>
      rw [reading] at pending
      rw [pending.2.2]
      cases cut with
      | finished =>
          rw [pending.1]
          exact pending.2.1
      | broken kind => trivial
  | none =>
      rw [reading] at pending
      rcases Option.isSome_iff_exists.mp pending.2 with ⟨copy, copying⟩
      rw [copying]
      cases cut with
      | finished => exact short copy pending.1
      | broken kind =>
          dsimp only
          split
          · exact short copy pending.1
          · trivial

/-- Whatever ends a relay early, it wrote what it took but for what its error rejects. -/
theorem leavesOut_of_failsAfter (accounts : Accounts framing origin taken flow)
    (fails : scanner.FailsAfter (fun _ _ _ => none) flow consumed broken) :
    broken.LeavesOut origin (taken ++ consumed) := by
  cases fails with
  | onByte reached accepted =>
      rw [← List.append_assoc]
      exact (accounts.scan reached).leavesOut_of_failed accepted
  | halted reached halts =>
      have stopped := accounts.scan reached
      cases halts with
      | beforeByte refused => exact stopped.leavesOut_of_refused refused
      | onSegmentEnd ended => exact stopped.leavesOut_of_segmentEnd ended
      | onWait waited => exact stopped.leavesOut_of_wait waited
      | onCut cut => exact stopped.leavesOut_of_cut cut
      | onAlarm rang => cases rang

end Accounts

/-- Where the relay of a body in chunks begins. -/
def chunkedStart (sink : Sink) : Flow Body :=
  ⟨⟨.sizeLine #[], 0⟩, sink⟩

theorem start_chunked (sink : Sink) : start .chunked sink = .more (chunkedStart sink) := rfl

section Chunked

variable {sink : Sink} {source : Source}

theorem read_chunked_eq_done_iff {relayed : Relayed} {rest : Bytes} :
    (∃ time items, scanner.read (chunkedStart sink) source = ⟨time, .done relayed, items⟩ ∧
        Source.bytesOf items = rest) ↔
      ∃ body, source.unread = body ++ rest ∧ IsChunked body ∧ relayed.Carries sink body := by
  have scans : scanner.resume source.unread (start .chunked sink) = .done relayed rest ↔
      ∃ body, source.unread = body ++ rest ∧ IsChunked body ∧ relayed.Carries sink body :=
    resume_start_eq_done_iff
  rw [← scans]
  apply steady_scanner.run_done_iff trivial
  · intro _ _ _
    rfl
  · intro scanned
    rcases scans.mp scanned with ⟨body, _, _, carries⟩
    exact (Accounts.of_start (start_chunked sink)).patient carries.flush _

theorem read_chunked_delivers_iff {body rest : Bytes} :
    (source.unread = body ++ rest ∧ IsChunked body ∧ sink.Takes body) ↔
      ∃ time relayed items,
        scanner.read (chunkedStart sink) source = ⟨time, .done relayed, items⟩ ∧
          Source.bytesOf items = rest ∧ relayed.count = body.length ∧
          relayed.sink.output = sink.output ++ body := by
  constructor
  · rintro ⟨split, isChunked, takes⟩
    have carries := carries_of_takes takes
    rcases read_chunked_eq_done_iff.mpr ⟨body, split, isChunked, carries⟩ with
      ⟨time, items, ran, left⟩
    exact ⟨time, _, items, ran, left, carries.count, Sink.output_of_written carries.wrote⟩
  · rintro ⟨time, relayed, items, ran, left, _, output⟩
    rcases read_chunked_eq_done_iff.mp ⟨time, items, ran, left⟩ with
      ⟨other, split, isChunked, carries⟩
    -- The output tells the body.
    rw [Sink.output_of_written carries.wrote, List.append_cancel_left_eq] at output
    subst output
    exact ⟨split, isChunked, carries.takes⟩

theorem leavesOut_of_read_chunked {time : Nat} {items : List Source.Item}
    (ran : scanner.read (chunkedStart sink) source = ⟨time, .failed broken, items⟩) :
    ∃ consumed, source.unread = consumed ++ Source.bytesOf items ∧
      broken.LeavesOut sink consumed := by
  rcases Scanner.failsAfter_of_run_failed ran with ⟨consumed, split, fails⟩
  have accounts := Accounts.of_start (start_chunked sink)
  exact ⟨consumed, split, accounts.leavesOut_of_failsAfter fails⟩

/-- A relay of a body in chunks reads exactly such a body, and writes it as it is. It fails if
there is none, and what it took then is what it wrote and a line that it rejects. -/
theorem read_chunked (sink : Sink) (source : Source) :
    (∀ content size, ChunkSize.ofLine content = .ok size ↔ ChunkSize.IsSizeLine content size) ∧
      (∀ body rest,
        (source.unread = body ++ rest ∧ IsChunked body ∧ sink.Takes body) ↔
          ∃ time relayed items,
            scanner.read (chunkedStart sink) source = ⟨time, .done relayed, items⟩ ∧
              Source.bytesOf items = rest ∧ relayed.count = body.length ∧
              relayed.sink.output = sink.output ++ body) ∧
      ((∀ bytes, sink.Takes bytes) →
        ((∃ time relayed items,
            scanner.read (chunkedStart sink) source = ⟨time, .done relayed, items⟩) ↔
          ∃ body rest, source.unread = body ++ rest ∧ IsChunked body)) ∧
      ∀ time broken items,
        scanner.read (chunkedStart sink) source = ⟨time, .failed broken, items⟩ →
          ∃ written rejected, source.unread = written ++ (rejected ++ Source.bytesOf items) ∧
            broken.sink.output = sink.output ++ written ∧ Rejects broken.error rejected := by
  refine ⟨?_, ?_, ?_, ?_⟩
  · intro content size
    exact ChunkSize.ofLine_eq_ok_iff
  · intro body rest
    exact read_chunked_delivers_iff
  · intro takes
    constructor
    · rintro ⟨time, relayed, items, ran⟩
      rcases read_chunked_eq_done_iff.mp ⟨time, items, ran, rfl⟩ with ⟨body, split, isChunked, _⟩
      exact ⟨body, _, split, isChunked⟩
    · rintro ⟨body, rest, split, isChunked⟩
      rcases read_chunked_delivers_iff.mp ⟨split, isChunked, takes body⟩ with
        ⟨time, relayed, items, ran, _⟩
      exact ⟨time, relayed, items, ran⟩
  · intro time broken items ran
    rcases leavesOut_of_read_chunked ran with
      ⟨_, split, written, rejected, rfl, output, rejects⟩
    refine ⟨written, rejected, ?_, output, rejects⟩
    rw [split, List.append_assoc]

/-- A chunk whose data looks like a line, a last size with leading zeros, and a trailer. -/
theorem read_chunked_lookalike :
    let chunk := Bytes.ofChars ['3', ';', 'x', '\r', '\n', '0', '\r', '\n', '\r', '\n']
    let ending := Bytes.ofChars ['0', '0', '\n', 't', ':', 'v', '\n', '\r', '\n', 'G']
    let source : Source := ⟨[.segment chunk, .delay 7, .segment ending], .stalled⟩
    (∀ bytes, Sink.unbounded.Takes bytes) ∧
      ∃ body rest, source.unread = body ++ rest ∧ IsChunked body := by
  intro chunk ending source
  have takes : ∀ bytes, Sink.unbounded.Takes bytes := Sink.takes_of_unbounded rfl rfl
  refine ⟨takes, ((read_chunked .unbounded source).2.2.1 takes).mp ?_⟩
  exact ⟨_, _, _, rfl⟩

end Chunked

end Body

end HttpRelay
