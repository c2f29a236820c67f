import HttpRelay.Proofs.Relay.Delivery
import HttpRelay.Proofs.Relay.Succession

/-!
# Truncation

A message that is cut off is never taken for a whole one, nor for a bad one. The end of the
stream is reported for what it is, in the terms of the place at which it came: before the
message, in its header, or in its body (`truncation_detected`).
-/

namespace HttpRelay

namespace Body

/-- The end of the stream is the only error that it makes. -/
theorem kind_cutError_finished {flow : Flow Body} (flushes : flow.sink.flush = none) :
    (cutError flow .finished).error.toFault.kind = .unexpectedEnd := by
  simp only [cutError]
  cases flow.progress.copy? with
  | none => rfl
  | some copy =>
      simp only [shortError, flushes]
      rfl

end Body

namespace Pass

variable {kind : Kind} {limits : Limits} {sink : Sink} {message : Message}
  {bytes missing rest : Bytes}

/-- In the header of a message, a receiver goes on. -/
theorem exists_receiver_of_lt
    (isFirst : Message.IsFirst kind limits message (bytes ++ missing) rest)
    (inHeader : bytes.length < message.header.receivedLength) :
    ∃ receiver, Receiver.scanner.scan (.start kind limits) bytes = .more receiver ∧
      Receiver.scanner.atSegmentEnd receiver = none := by
  rcases isFirst.block with ⟨block, fields, split, accepts⟩
  rw [accepts.receivedLength] at inHeader
  have isPrefix : bytes <+: block :=
    List.prefix_of_prefix_length_le ⟨missing, split⟩ (List.prefix_append _ _)
      (Nat.le_of_lt inHeader)
  rcases isPrefix with ⟨others, rfl⟩
  have received : Receiver.scanner.scan (.start kind limits) (bytes ++ others) =
      .done message.header [] :=
    Receiver.scan_start_eq_done_iff.mpr ⟨_, fields, (List.append_nil _).symm, accepts⟩
  have shorter : ([] : Bytes).length < others.length := by
    rw [List.length_append] at inHeader
    exact Nat.lt_of_add_lt_add_left inHeader
  rcases Scanner.exists_scan_of_append_done received shorter with ⟨receiver, reached, remaining⟩
  have startWithin : (Receiver.start kind limits).LineWithinTaken := Nat.zero_le _
  have within := Receiver.steady_scanner.valid_scan startWithin reached
  exact ⟨receiver, reached, Receiver.steady_scanner.atSegmentEnd_of_scan_done within remaining⟩

theorem patient_of_receiver {receiver : Receiver}
    (received : Receiver.scanner.scan (.start kind limits) bytes = .more receiver) :
    scanner.Patient ⟨.start kind limits, sink⟩ bytes := by
  rintro first stop ⟨others, rfl⟩ reached
  rcases Scanner.exists_scan_of_append_more received with ⟨middle, firstReceived, _⟩
  have scanned := scan_receiving (.start kind limits) sink first
  simp only [firstReceived] at scanned
  cases reached.symm.trans scanned
  rfl

/-- A stream that ends in the header of a message. -/
theorem read_cut_in_header {cut : Source}
    (isFirst : Message.IsFirst kind limits message (cut.unread ++ missing) rest)
    (inHeader : cut.unread.length < message.header.receivedLength)
    (ended : cut.ending = .finished) (sink : Sink) :
    ∃ time hadStarted, scanner.read ⟨.start kind limits, sink⟩ cut =
      ⟨time, .failed (ofHeaderError hadStarted sink
        (if cut.unread = [] then .connectionClosed else .incomplete)), []⟩ := by
  rcases exists_receiver_of_lt isFirst inHeader with ⟨receiver, received, nothingDue⟩
  have scanned := scan_receiving (.start kind limits) sink cut.unread
  simp only [received] at scanned
  have passNothingDue : scanner.atSegmentEnd ⟨.receiving receiver, sink⟩ = none :=
    Option.map_eq_none_iff.mpr nothingDue
  have within : LineWithinTaken ⟨.start kind limits, sink⟩ := Nat.zero_le _
  rcases steady_scanner.run_of_scan_more within (fun _ _ _ => rfl) (patient_of_receiver received)
    scanned passNothingDue 0 with ⟨time, ran⟩
  have taken := Receiver.taken_scan received
  have hasStarted : receiver.hasStarted = !cut.unread.isEmpty := by
    simp only [Receiver.hasStarted, taken, Receiver.start, Nat.zero_add]
    cases cut.unread <;> rfl
  refine ⟨time, receiver.hasStarted, ran.trans ?_⟩
  rw [ended]
  simp only [Scanner.run, scanner, Receiver.scanner, Receiver.cutError, hasStarted]
  cases cut.unread <;> rfl

/-- A stream that ends in the body of a message, with a sink that takes the whole message. -/
theorem read_cut_in_body {cut : Source}
    (isFirst : Message.IsFirst kind limits message (cut.unread ++ missing) rest)
    (shorter : rest.length < missing.length) (takes : sink.Takes message.forwarded)
    (inBody : message.header.receivedLength ≤ cut.unread.length) (ended : cut.ending = .finished) :
    ∃ time abandoned error written, scanner.read ⟨.start kind limits, sink⟩ cut =
        ⟨time, .failed abandoned, []⟩ ∧
      abandoned.failure = .relay error ∧ error.toFault.kind = .unexpectedEnd ∧
      written <+: message.forwarded ∧ abandoned.sink.output = sink.output ++ written := by
  have completed := scan_start_eq_done_iff.mpr
    ⟨message.body, isFirst, carries_of_takes takes⟩
  rcases Scanner.exists_scan_of_append_done completed shorter with ⟨stop, scanned, remaining⟩
  have startWithin : LineWithinTaken ⟨.start kind limits, sink⟩ := Nat.zero_le _
  have within := steady_scanner.valid_scan startWithin scanned
  have nothingDue := steady_scanner.atSegmentEnd_of_scan_done within remaining
  rcases steady_scanner.run_of_scan_more startWithin (fun _ _ _ => rfl)
    (patient_start takes.flush _) scanned nothingDue 0 with ⟨time, ran⟩
  have accounts := accounts_of_scan scanned
  have flushes := accounts.flush_sink.trans takes.flush
  have tracks := (tracks_start kind limits sink).scan cut.unread
  simp only [scanned] at tracks
  rcases tracks.isPart missing with ⟨written, output, isPart⟩
  rcases stop with ⟨receiver | ⟨header, body⟩, stopSink⟩
  · -- The receiver would have come to the header by now.
    rcases isFirst.block with ⟨block, fields, split, accepts⟩
    rw [accepts.receivedLength] at inBody
    have isPrefix : block <+: cut.unread :=
      List.prefix_of_prefix_length_le ⟨_, split.symm⟩ (List.prefix_append _ missing) inBody
    rcases isPrefix with ⟨others, split⟩
    have received := Receiver.scan_start_eq_done_iff.mpr ⟨block, fields, split.symm, accepts⟩
    cases accounts.2.symm.trans received
  · refine ⟨time, ofBroken header (Body.cutError ⟨body, stopSink⟩ .finished), _, written,
      ran.trans ?_, rfl, Body.kind_cutError_finished flushes, isPart.prefix_forwarded isFirst,
      output⟩
    rw [ended]
    rfl

/-- A message that is cut off does not go through, whatever the sink. -/
theorem not_goesThrough_of_cut {cut : Source} {delivered : Delivered}
    (isFirst : Message.IsFirst kind limits message (cut.unread ++ missing) [])
    (nonempty : missing ≠ []) : ¬GoesThrough kind limits sink cut delivered rest := by
  intro goesThrough
  rcases goesThrough_iff.mp goesThrough with ⟨body, otherFirst, _⟩
  have nothing := (isFirst.unique (otherFirst.append missing)).2
  rw [eq_comm, List.append_eq_nil_iff] at nothing
  exact nonempty nothing.2

theorem exists_failed_of_cut {cut : Source}
    (isFirst : Message.IsFirst kind limits message (cut.unread ++ missing) [])
    (nonempty : missing ≠ []) (ended : cut.ending = .finished) (sink : Sink) :
    ∃ time abandoned items,
      scanner.read ⟨.start kind limits, sink⟩ cut = ⟨time, .failed abandoned, items⟩ := by
  cases ran : scanner.read ⟨.start kind limits, sink⟩ cut with
  | mk time outcome items =>
      cases outcome with
      | done delivered =>
          have goesThrough : GoesThrough kind limits sink cut delivered _ := ⟨time, items, ran, rfl⟩
          exact absurd goesThrough (not_goesThrough_of_cut isFirst nonempty)
      | failed abandoned => exact ⟨time, abandoned, items, rfl⟩
      | waiting stop =>
          have stalled := Scanner.ending_of_run_waiting ran
          rw [ended] at stalled
          cases stalled

end Pass

theorem HeaderBlock.Accepts.receivedLength_pos {kind : Kind} {limits : Limits} {block : Bytes}
    {fields : List Field} {header : Header}
    (accepts : HeaderBlock.Accepts kind limits block fields header) :
    0 < header.receivedLength := by
  rcases accepts.lines with ⟨line, others, blockEq, ⟨raw, _, rfl, _⟩, _⟩
  rw [accepts.receivedLength, blockEq, List.length_append, List.length_append,
    List.length_singleton]
  omega

/-- A message that is cut off fails with the end of the stream as the reason, and with no other.
Before the message and in its header nothing is written, whatever the sink. In its body, what a
sink gets that could take the whole message is a part of the message. -/
theorem truncation_detected (kind : Kind) (limits : Limits) (sink : Sink) (whole cut : Source)
    (delivered : Pass.Delivered) (forwarded missing : Bytes)
    (goesThrough : Pass.GoesThrough kind limits sink whole delivered [])
    (output : delivered.sink.output = sink.output ++ forwarded)
    (split : whole.unread = cut.unread ++ missing) (nonempty : missing ≠ [])
    (ended : cut.ending = .finished) (other : Sink) :
    (∀ (again : Source) (completed : Pass.Delivered) (rest : Bytes),
        again.unread = cut.unread → ¬Pass.GoesThrough kind limits other again completed rest) ∧
      ∃ time abandoned items,
        Pass.scanner.read ⟨.start kind limits, other⟩ cut = ⟨time, .failed abandoned, items⟩ ∧
          (cut.unread = [] → abandoned.failure = .header .connectionClosed) ∧
          (cut.unread ≠ [] → cut.unread.length < delivered.header.receivedLength →
            abandoned.failure = .header .incomplete) ∧
          (cut.unread.length < delivered.header.receivedLength → abandoned.sink = other) ∧
          (other.Takes forwarded →
            ∃ written, written <+: forwarded ∧ abandoned.sink.output = other.output ++ written ∧
              (delivered.header.receivedLength ≤ cut.unread.length →
                ∃ error, abandoned.failure = .relay error ∧
                  error.toFault.kind = .unexpectedEnd)) := by
  rcases Pass.goesThrough_iff.mp goesThrough with ⟨body, isFirst, carries⟩
  rw [carries.output, List.append_cancel_left_eq] at output
  subst output
  have positive : 0 < delivered.header.receivedLength := by
    rcases isFirst.block with ⟨block, fields, _, accepts⟩
    exact accepts.receivedLength_pos
  have isFirstCut := isFirst
  rw [split] at isFirstCut
  constructor
  · intro again completed rest sameBytes
    rw [← sameBytes] at isFirstCut
    exact Pass.not_goesThrough_of_cut isFirstCut nonempty
  -- Header and body fail with different errors, and only in the body the sink matters.
  by_cases inHeader : cut.unread.length < delivered.header.receivedLength
  · rcases Pass.read_cut_in_header isFirstCut inHeader ended other with ⟨time, hadStarted, ran⟩
    refine ⟨time, _, [], ran, ?_, ?_, fun _ => rfl, ?_⟩
    · intro empty
      simp only [Pass.ofHeaderError, empty, if_true]
    · intro begun _
      simp only [Pass.ofHeaderError, begun, if_false]
    · intro _
      refine ⟨[], List.nil_prefix, (List.append_nil _).symm, ?_⟩
      intro inBody
      omega
  · have begun : cut.unread ≠ [] := by
      intro empty
      rw [empty] at inHeader
      exact inHeader positive
    have inBody := Nat.le_of_not_lt inHeader
    by_cases takes : other.Takes (delivered.header.encode ++ body)
    · rcases Pass.read_cut_in_body isFirstCut (List.length_pos_of_ne_nil nonempty) takes inBody
        ended with ⟨time, abandoned, error, written, ran, failure, isEnd, isPrefix, grown⟩
      refine ⟨time, abandoned, [], ran, ?_, ?_, ?_, ?_⟩
      · intro empty
        exact absurd empty begun
      · intro _ within
        exact absurd within inHeader
      · intro within
        exact absurd within inHeader
      · intro _
        exact ⟨written, isPrefix, grown, fun _ => ⟨error, failure, isEnd⟩⟩
    · -- The sink may fail first, but it fails.
      rcases Pass.exists_failed_of_cut isFirstCut nonempty ended other with
        ⟨time, abandoned, items, ran⟩
      refine ⟨time, abandoned, items, ran, ?_, ?_, ?_, ?_⟩
      · intro empty
        exact absurd empty begun
      · intro _ within
        exact absurd within inHeader
      · intro within
        exact absurd within inHeader
      · intro takesAll
        exact absurd takesAll takes

def shortHeader (separator : Bytes) : Bytes :=
  Bytes.ofChars ['H', 'T', 'T', 'P', '/', '1', ' ', '2', '0', '0'] ++ Bytes.lineEnd ++
    Field.contentLength ++ separator ++ [0x32] ++ Bytes.lineEnd ++ Bytes.lineEnd

/-- A response with a body of two bytes. -/
def shortResponse : Source :=
  .ofSegments [shortHeader [Bytes.colon] ++ [0x41, 0x42]] .stalled

/-- The same response, which ends in the middle of the body. -/
def shortResponseCut : Source :=
  ⟨[.segment (shortHeader [Bytes.colon]), .delay 4, .segment [0x41]], .finished⟩

theorem truncation_detected_shortResponse :
    ∃ delivered,
      Pass.GoesThrough .response ⟨16, 1, 32, 1000⟩ .unbounded shortResponse delivered [] ∧
        delivered.sink.output =
          Sink.unbounded.output ++ (shortHeader Field.separator ++ [0x41, 0x42]) ∧
        shortResponse.unread = shortResponseCut.unread ++ [0x42] ∧
        ∃ time abandoned items error,
          Pass.scanner.read ⟨.start .response ⟨16, 1, 32, 1000⟩, .unbounded⟩ shortResponseCut =
              ⟨time, .failed abandoned, items⟩ ∧
            abandoned.failure = .relay error ∧ error.toFault.kind = .unexpectedEnd := by
  have goesThrough : Pass.GoesThrough .response ⟨16, 1, 32, 1000⟩ .unbounded shortResponse
      ⟨⟨Bytes.ofChars ['H', 'T', 'T', 'P', '/', '1', ' ', '2', '0', '0'],
          [⟨Field.contentLength, [0x32]⟩], 32, .length 2⟩, 2,
        (Sink.unbounded.write (shortHeader Field.separator ++ [0x41, 0x42])).1⟩ [] :=
    ⟨0, [.segment []], rfl, rfl⟩
  have split : shortResponse.unread = shortResponseCut.unread ++ [0x42] := rfl
  have nonempty : ([0x42] : Bytes) ≠ [] := List.cons_ne_nil _ _
  refine ⟨_, goesThrough, rfl, split, ?_⟩
  rcases (truncation_detected .response _ .unbounded shortResponse shortResponseCut _
    (shortHeader Field.separator ++ [0x41, 0x42]) [0x42] goesThrough rfl split nonempty rfl
    .unbounded).2 with ⟨time, abandoned, items, ran, _, _, _, inBody⟩
  rcases inBody (Sink.takes_of_unbounded rfl rfl _) with ⟨written, _, _, isEnd⟩
  have enough : 32 ≤ shortResponseCut.unread.length := by
    decide +kernel
  rcases isEnd enough with ⟨error, failure, kind⟩
  exact ⟨time, abandoned, items, error, ran, failure, kind⟩

end HttpRelay
