import HttpRelay.Proofs.Relay.Boundaries
import HttpRelay.Proofs.Relay.DataPosition

/-!
# Messages into a sink with limited room

A sequence of messages that is relayed into a sink with room for a given number of bytes, beside
the same sequence with no limit (`recordSequence_limited`). The sink gets the bytes of the other up
to the limit. If that is all of them nothing else differs. If not, the relays agree up to the
message in which the limit is, and that message ends with the fault of the sink, and with it the
sequence. A body that is cut off in front of a byte of data is read as far as it is written.

What is compared are records (`MessageRecord`), which say more than the reports on the messages: a
message that is waited for without end has no report, but a part of it may be written.
-/

namespace HttpRelay

/-- How the relay of one message stands: the header if it was accepted, the report if there is
one, and the bytes that were written. -/
structure MessageRecord where
  header? : Option Header
  report : Option MessageReport
  output : Bytes

namespace MessageRecord

def of : Outcome (Flow Pass) Pass.Delivered Pass.Abandoned → MessageRecord
  | .done delivered =>
      ⟨some delivered.header,
        some (.received delivered.header (.ok delivered.count) delivered.sink.output),
        delivered.sink.output⟩
  | .failed abandoned =>
      ⟨abandoned.accepted, MessageReport.ofAbandoned abandoned, abandoned.sink.output⟩
  | .waiting flow => ⟨flow.progress.header?, none, flow.sink.output⟩

/-- The message failed with the fault of a sink that took only the given bytes. -/
def cutOff (header : Header) (refusal : FaultKind) (written : Bytes) : MessageRecord :=
  ⟨some header, some (.received header (.error (.fault (.ofKind refusal))) written), written⟩

theorem cutOff_inj {header other : Header} {refusal : FaultKind} {written otherWritten : Bytes}
    (same : cutOff header refusal written = cutOff other refusal otherWritten) :
    header = other ∧ written = otherWritten := by
  cases same
  exact ⟨rfl, rfl⟩

end MessageRecord

/-- The records of the messages of a sequence, and the source with what was left. -/
def recordSequence (kind : Kind) (limits : Limits) :
    Nat → Sink → Source → List MessageRecord × Source
  | 0, _, source => ([], source)
  | count + 1, sink, source =>
      let run := Pass.scanner.read ⟨.start kind limits, sink.forgetOutput⟩ source
      let rest : Source := ⟨run.items, source.ending⟩
      match run.outcome with
      | .done delivered =>
          let (records, left) := recordSequence kind limits count delivered.sink rest
          (.of run.outcome :: records, left)
      | .failed _ | .waiting _ => ([.of run.outcome], rest)

/-- All that was written for some messages. -/
def outputOf (records : List MessageRecord) : Bytes :=
  records.flatMap MessageRecord.output

@[simp]
theorem outputOf_nil : outputOf [] = [] := rfl

@[simp]
theorem outputOf_cons (record : MessageRecord) (records : List MessageRecord) :
    outputOf (record :: records) = record.output ++ outputOf records := rfl

@[simp]
theorem outputOf_append (records others : List MessageRecord) :
    outputOf (records ++ others) = outputOf records ++ outputOf others :=
  List.flatMap_append

/-- A sink that takes the given number of bytes, and then fails every write. -/
def Sink.ofRoom (room : Nat) (refusal : FaultKind) : Sink :=
  { Sink.unbounded with room := some room, refusal := refusal }

variable {kind : Kind} {limits : Limits} {count : Nat} {sink limited : Sink} {source : Source}
  {time total : Nat} {refusal : FaultKind} {items : List Source.Item}

section Records

theorem recordSequence_of_done {delivered : Pass.Delivered}
    (ran : Pass.scanner.read ⟨.start kind limits, sink.forgetOutput⟩ source =
      ⟨time, .done delivered, items⟩) :
    recordSequence kind limits (count + 1) sink source =
      (.of (.done delivered) ::
          (recordSequence kind limits count delivered.sink ⟨items, source.ending⟩).1,
        (recordSequence kind limits count delivered.sink ⟨items, source.ending⟩).2) := by
  rw [recordSequence, ran]

theorem recordSequence_of_failed {abandoned : Pass.Abandoned}
    (ran : Pass.scanner.read ⟨.start kind limits, sink.forgetOutput⟩ source =
      ⟨time, .failed abandoned, items⟩) :
    recordSequence kind limits (count + 1) sink source =
      ([.of (.failed abandoned)], ⟨items, source.ending⟩) := by
  rw [recordSequence, ran]

theorem recordSequence_of_waiting {flow : Flow Pass}
    (ran : Pass.scanner.read ⟨.start kind limits, sink.forgetOutput⟩ source =
      ⟨time, .waiting flow, items⟩) :
    recordSequence kind limits (count + 1) sink source =
      ([.of (.waiting flow)], ⟨items, source.ending⟩) := by
  rw [recordSequence, ran]

/-- The first record is that of the first message. -/
theorem exists_recordSequence_succ (kind : Kind) (limits : Limits) (count : Nat) (sink : Sink)
    (source : Source) :
    ∃ others, (recordSequence kind limits (count + 1) sink source).1 =
      .of (Pass.scanner.read ⟨.start kind limits, sink.forgetOutput⟩ source).outcome :: others := by
  cases ran : Pass.scanner.read ⟨.start kind limits, sink.forgetOutput⟩ source with
  | mk time outcome items =>
      cases outcome with
      | done delivered =>
          rw [recordSequence_of_done ran]
          exact ⟨_, rfl⟩
      | failed abandoned =>
          rw [recordSequence_of_failed ran]
          exact ⟨_, rfl⟩
      | waiting flow =>
          rw [recordSequence_of_waiting ran]
          exact ⟨_, rfl⟩

/-- A sequence reports what the records say. -/
theorem relaySequence_eq (kind : Kind) (limits : Limits) (count : Nat) (sink : Sink)
    (source : Source) :
    relaySequence kind limits count sink source =
      ((recordSequence kind limits count sink source).1.filterMap MessageRecord.report,
        (recordSequence kind limits count sink source).2) := by
  induction count generalizing sink source with
  | zero => rfl
  | succ count ih =>
      cases ran : Pass.scanner.read ⟨.start kind limits, sink.forgetOutput⟩ source with
      | mk time outcome items =>
          cases outcome with
          | done delivered =>
              rw [relaySequence_of_done ran, recordSequence_of_done ran, ih]
              rfl
          | failed abandoned =>
              rw [relaySequence_of_failed ran, recordSequence_of_failed ran]
              simp only [MessageRecord.of, List.filterMap_cons, List.filterMap_nil]
              cases MessageReport.ofAbandoned abandoned <;> rfl
          | waiting flow =>
              rw [recordSequence_of_waiting ran, relaySequence, ran]
              rfl

end Records

theorem Sink.IsLimited.forgetOutput (isLimited : sink.IsLimited total refusal limited) :
    sink.forgetOutput.IsLimited (total - sink.output.length) refusal limited.forgetOutput where
  unbounded := isLimited.unbounded
  within := Nat.zero_le _
  limited := by
    rw [isLimited.limited]
    rfl

namespace Pass

section Alike

variable {outcome other : Outcome (Flow Pass) Delivered Abandoned}

theorem record_of_isLike (alike : outcome.IsLike (likeness total refusal) other) :
    MessageRecord.of other = MessageRecord.of outcome ∧
      (MessageRecord.of outcome).output.length ≤ total := by
  cases alike with
  | done values =>
      rcases values with ⟨limited, isLimited, rfl⟩
      simp only [MessageRecord.of, isLimited.output, isLimited.within, and_self]
  | failed errors =>
      rcases errors with ⟨limited, isLimited, rfl⟩
      simp only [MessageRecord.of, MessageReport.ofAbandoned, isLimited.output, isLimited.within,
        and_self]
  | waiting states =>
      rcases states with ⟨limited, isLimited, rfl⟩
      simp only [MessageRecord.of, isLimited.output, isLimited.within, and_self]

theorem record_of_holds {header : Header} {written : Bytes}
    (holds : outcome.Holds
      (fun flow => flow.progress.header? = some header ∧ written <+: flow.sink.output)
      (fun delivered => delivered.header = header ∧ written <+: delivered.sink.output)
      (fun abandoned => abandoned.accepted = some header ∧ written <+: abandoned.sink.output)) :
    (MessageRecord.of outcome).header? = some header ∧
      written <+: (MessageRecord.of outcome).output := by
  cases outcome with
  | done delivered => exact ⟨congrArg some holds.1, holds.2⟩
  | failed abandoned => exact holds
  | waiting flow => exact holds

end Alike

/-- A pass that its sink ends at the limit, beside the same pass with no limit. If the byte behind
the limit would have been data, the pass has taken the body up to that byte. -/
structure IsCurtailed (total : Nat) (refusal : FaultKind) (source : Source)
    (run other : Run (Flow Pass) Delivered Abandoned) (header : Header) (cut : Sink) : Prop where
  accepted : (MessageRecord.of run.outcome).header? = some header
  past : total < (MessageRecord.of run.outcome).output.length
  failed : other.outcome = .failed (ofBroken header ⟨.fault (.ofKind refusal), cut⟩)
  output : cut.output = (MessageRecord.of run.outcome).output.take total
  data : ∀ body, cut.output = header.encode ++ body → Body.IsBeforeData header.framing body →
    ∃ block, source.unread = block ++ (body ++ Source.bytesOf other.items) ∧
      block.length = header.receivedLength

section Curtailed

variable {header : Header} {bytes left body : Bytes} {receiver : Receiver} {cut : Sink}
  {parting : Scanner.Parting (Flow Pass) Abandoned} {ends : Flow Pass → UInt8 → Step → Prop}

theorem output_of_isPrefix {written output : Bytes} (past : total < written.length)
    (isPrefix : written <+: output) : written.take total = output.take total := by
  rcases isPrefix with ⟨more, rfl⟩
  exact (List.take_append_of_le_length (Nat.le_of_lt past)).symm

theorem error_of_parting {pass : Pass} {abandoned : Abandoned}
    (isAt : parting.IsAt scanner (likeness total refusal) ends ⟨.start kind limits, sink⟩ bytes
      left)
    (fails : scanner.accept parting.other parting.byte = pass.failure abandoned) :
    parting.error = abandoned := by
  have failure := failure_eq pass abandoned
  rw [← fails] at failure
  rcases isAt.left with ⟨failed, _⟩ | ⟨refused, _⟩
  · rw [failed] at failure
    rcases failure with same | same <;> cases same
    rfl
  · rw [refused] at failure
    rcases failure with same | same <;> cases same
    rfl

/-- A byte with which a header is complete writes the header, and no more. -/
theorem output_accept_receiving {byte : UInt8} (unbounded : sink.room = none)
    (accepted : (accept ⟨.receiving receiver, sink⟩ byte).header? = some header) :
    (accept ⟨.receiving receiver, sink⟩ byte).output = sink.output ++ header.encode := by
  simp only [accept] at accepted ⊢
  cases receives : receiver.accept byte with
  | more next =>
      rw [receives] at accepted
      cases accepted
  | done received =>
      rw [receives] at accepted
      cases Option.some.inj ((header?_forward received sink).symm.trans accepted)
      exact output_forward _ unbounded
  | failed error =>
      rw [receives] at accepted
      cases accepted
  | refused error =>
      rw [receives] at accepted
      cases accepted

theorem left_of_parting {accepted : Header} {stage : Body} {abandoned : Abandoned}
    (isAt : parting.IsAt scanner (likeness total refusal) ends ⟨.start kind limits, sink⟩ bytes
      left)
    (copies : stage.copy?.isSome)
    (fails : accept parting.other parting.byte = (relaying accepted stage).failure abandoned) :
    left = parting.byte :: parting.after := by
  rw [failure, if_pos copies] at fails
  rcases isAt.left with ⟨failed, _⟩ | ⟨_, left⟩
  · cases fails.symm.trans failed
  · exact left

/-- A pass whose next byte is data that its sink does not take has left that byte. -/
theorem data_of_parting {abandoned : Abandoned}
    (isAt : parting.IsAt scanner (likeness total refusal) ends ⟨.start kind limits, sink⟩ bytes
      left)
    (fresh : sink.output = []) (unbounded : sink.room = none)
    (accepted : (accept parting.stop parting.byte).header? = some header)
    (past : total < (accept parting.stop parting.byte).output.length)
    (fails : accept parting.other parting.byte = parting.stop.progress.failure abandoned)
    (output : (accept parting.stop parting.byte).output.take total = header.encode ++ body)
    (isBefore : Body.IsBeforeData header.framing body) :
    ∃ block, bytes = block ++ (body ++ left) ∧ block.length = header.receivedLength := by
  rcases isAt.alike with ⟨limited, isLimited, _⟩
  rcases cases_of_scan_more isAt.reached with
    ⟨receiver, stop, _⟩ |
    ⟨received, stage, last, block, fields, relayed, begun, stop, taken, accepts, wrote, resumed⟩
  · -- The header would be cut off, and not the body.
    rw [stop] at accepted past output
    have whole := output_accept_receiving unbounded accepted
    have length := congrArg List.length output
    rw [whole, fresh, List.nil_append] at past length
    simp only [List.length_take, List.length_append] at length
    omega
  · rw [stop, accept_relaying] at accepted past output
    rw [stop] at isLimited fails
    rw [header?_ofBodyStep] at accepted
    cases accepted
    rw [output_ofBodyStep] at past output
    have begins := Sink.output_of_written wrote
    rw [fresh, List.nil_append] at begins
    rw [← begins] at output
    rcases Body.copies_of_isBeforeData resumed isLimited.within past output isBefore with
      ⟨rfl, copies⟩
    refine ⟨block, ?_, accepts.receivedLength.symm⟩
    rw [isAt.split, left_of_parting isAt copies fails, taken, List.append_assoc]

/-- A pass with a limit does as one with none, or its sink ends it. -/
theorem read_limited (kind : Kind) (limits : Limits) (fresh : sink.output = [])
    (isLimited : sink.IsLimited total refusal limited) (source : Source) :
    let run := scanner.read ⟨.start kind limits, sink⟩ source
    let other := scanner.read ⟨.start kind limits, limited⟩ source
    run.IsLike (likeness total refusal) other ∨
      ∃ header cut, IsCurtailed total refusal source run other header cut := by
  intro run other
  have states : (likeness total refusal).state ⟨.start kind limits, sink⟩
      ⟨.start kind limits, limited⟩ := ⟨limited, isLimited, rfl⟩
  rcases (isAlikeUntil_scanner total refusal).run (fun _ _ _ => rfl) source.ending 0 source.items
    states with same | ⟨parting, isAt, failed, keeps⟩
  · exact Or.inl same
  · rcases isAt.ends with ⟨past, header, cut, accepted, fails, output⟩
    rcases record_of_holds (keeps (keeps_written header _) (holds_written accepted)) with
      ⟨sameHeader, isPrefix⟩
    refine Or.inr ⟨header, cut, sameHeader, past.trans_le isPrefix.length_le, ?_, ?_, ?_⟩
    · rw [← error_of_parting isAt fails]
      exact failed
    · rw [output]
      exact output_of_isPrefix past isPrefix
    · intro body split isBefore
      exact data_of_parting isAt fresh isLimited.unbounded accepted past fails
        (output.symm.trans split) isBefore

end Curtailed

end Pass

/-- Where a limit ends a sequence: the messages before, what is recorded of the message and of
those behind it when there is no limit, the header of the message, how much of it was written, and
what was left of the source. -/
structure Shortfall where
  before : List MessageRecord
  record : MessageRecord
  after : List MessageRecord
  header : Header
  written : Bytes
  left : Source

/-- The limit ends the sequence that goes to the second sink. If the byte behind the limit would
have been data, all that was taken of the body is written. -/
structure Shortfall.IsIn (total : Nat) (refusal : FaultKind) (kind : Kind) (limits : Limits)
    (count : Nat) (sink limited : Sink) (source : Source) (shortfall : Shortfall) : Prop where
  whole : (recordSequence kind limits count sink source).1 =
    shortfall.before ++ shortfall.record :: shortfall.after
  stops : recordSequence kind limits count limited source =
    (shortfall.before ++ [.cutOff shortfall.header refusal shortfall.written], shortfall.left)
  accepted : shortfall.record.header? = some shortfall.header
  within : (outputOf shortfall.before).length ≤ total
  past : total < (outputOf shortfall.before).length + shortfall.record.output.length
  written : shortfall.written =
    shortfall.record.output.take (total - (outputOf shortfall.before).length)
  data : ∀ body, shortfall.written = shortfall.header.encode ++ body →
    Body.IsBeforeData shortfall.header.framing body →
      ∃ block, (recordSequence kind limits shortfall.before.length sink source).2.unread =
          block ++ (body ++ shortfall.left.unread) ∧
        block.length = shortfall.header.receivedLength

section Sequence

variable {delivered : Pass.Delivered} {shortfall : Shortfall}

/-- A message that goes through comes before the limit. -/
theorem Shortfall.IsIn.behind {next : Sink} {otherTime : Nat}
    (ran : Pass.scanner.read ⟨.start kind limits, sink.forgetOutput⟩ source =
      ⟨time, .done delivered, items⟩)
    (otherRan : Pass.scanner.read ⟨.start kind limits, limited.forgetOutput⟩ source =
      ⟨otherTime, .done { delivered with sink := next }, items⟩)
    (isLimited : delivered.sink.IsLimited total refusal next)
    (isIn : shortfall.IsIn (total - delivered.sink.output.length) refusal kind limits count
      delivered.sink next ⟨items, source.ending⟩) :
    Shortfall.IsIn total refusal kind limits (count + 1) sink limited source
      { shortfall with before := .of (.done delivered) :: shortfall.before } where
  whole := by
    rw [recordSequence_of_done ran, isIn.whole]
    rfl
  stops := by
    rw [recordSequence_of_done otherRan, isIn.stops]
    simp only [MessageRecord.of, isLimited.output, List.cons_append]
  accepted := isIn.accepted
  within := by
    have within := isIn.within
    have first := isLimited.within
    simp only [outputOf_cons, MessageRecord.of, List.length_append]
    omega
  past := by
    have past := isIn.past
    simp only [outputOf_cons, MessageRecord.of, List.length_append]
    omega
  written := by
    rw [outputOf_cons, List.length_append, Nat.sub_add_eq]
    exact isIn.written
  data := by
    intro body split isBefore
    rw [List.length_cons, recordSequence_of_done ran]
    exact isIn.data body split isBefore

/-- A message that its sink ends is the last. -/
theorem Shortfall.isIn_of_isCurtailed {header : Header} {cut : Sink} (count : Nat)
    (curtailed : Pass.IsCurtailed total refusal source
      (Pass.scanner.read ⟨.start kind limits, sink.forgetOutput⟩ source)
      (Pass.scanner.read ⟨.start kind limits, limited.forgetOutput⟩ source) header cut) :
    ∃ shortfall : Shortfall,
      shortfall.IsIn total refusal kind limits (count + 1) sink limited source := by
  rcases exists_recordSequence_succ kind limits count sink source with ⟨after, records⟩
  cases ran : Pass.scanner.read ⟨.start kind limits, limited.forgetOutput⟩ source with
  | mk time outcome items =>
      rw [ran] at curtailed
      cases curtailed.failed
      exact ⟨⟨[], _, after, header, cut.output, ⟨items, source.ending⟩⟩, records,
        recordSequence_of_failed ran, curtailed.accepted, Nat.zero_le total,
        (Nat.zero_add _).symm ▸ curtailed.past, curtailed.output, curtailed.data⟩

/-- A limit changes nothing about a sequence, or ends it. -/
theorem recordSequence_eq_or_isIn (kind : Kind) (limits : Limits) (count : Nat) (source : Source)
    (isLimited : sink.forgetOutput.IsLimited total refusal limited.forgetOutput) :
    ((outputOf (recordSequence kind limits count sink source).1).length ≤ total ∧
        recordSequence kind limits count limited source =
          recordSequence kind limits count sink source) ∨
      ∃ shortfall : Shortfall,
        shortfall.IsIn total refusal kind limits count sink limited source := by
  induction count generalizing sink limited source total with
  | zero => exact Or.inl ⟨Nat.zero_le _, rfl⟩
  | succ count ih =>
      rcases Pass.read_limited kind limits rfl isLimited source with
        alike | ⟨header, cut, curtailed⟩
      · cases ran : Pass.scanner.read ⟨.start kind limits, sink.forgetOutput⟩ source with
        | mk time outcome items =>
        cases otherRan : Pass.scanner.read ⟨.start kind limits, limited.forgetOutput⟩ source with
        | mk otherTime otherOutcome otherItems =>
        simp only [ran, otherRan] at alike
        rcases alike with ⟨_, outcomes, rfl⟩
        rcases Pass.record_of_isLike outcomes with ⟨sameRecord, within⟩
        cases outcomes with
        | @done delivered _ values =>
            rcases values with ⟨next, stillLimited, rfl⟩
            rcases ih ⟨items, source.ending⟩ stillLimited.forgetOutput with
              ⟨others, same⟩ | ⟨shortfall, isIn⟩
            · left
              rw [recordSequence_of_done ran, recordSequence_of_done otherRan, same, sameRecord]
              refine ⟨?_, rfl⟩
              rw [outputOf_cons, List.length_append]
              simp only [MessageRecord.of] at within ⊢
              omega
            · exact Or.inr ⟨_, isIn.behind ran otherRan stillLimited⟩
        | failed errors =>
            left
            rw [recordSequence_of_failed ran, recordSequence_of_failed otherRan, sameRecord]
            refine ⟨?_, rfl⟩
            rw [outputOf_cons, outputOf_nil, List.append_nil]
            exact within
        | waiting states =>
            left
            rw [recordSequence_of_waiting ran, recordSequence_of_waiting otherRan, sameRecord]
            refine ⟨?_, rfl⟩
            rw [outputOf_cons, outputOf_nil, List.append_nil]
            exact within
      · exact Or.inr (Shortfall.isIn_of_isCurtailed count curtailed)

namespace Shortfall.IsIn

theorem whole_output (isIn : shortfall.IsIn total refusal kind limits count sink limited source) :
    outputOf (recordSequence kind limits count sink source).1 =
      outputOf shortfall.before ++ (shortfall.record.output ++ outputOf shortfall.after) := by
  rw [isIn.whole, outputOf_append, outputOf_cons]

theorem past_output (isIn : shortfall.IsIn total refusal kind limits count sink limited source) :
    total < (outputOf (recordSequence kind limits count sink source).1).length := by
  rw [isIn.whole_output, List.length_append, List.length_append, ← Nat.add_assoc]
  exact Nat.lt_add_right _ isIn.past

theorem output (isIn : shortfall.IsIn total refusal kind limits count sink limited source) :
    outputOf (recordSequence kind limits count limited source).1 =
      (outputOf (recordSequence kind limits count sink source).1).take total := by
  have inRecord : total - (outputOf shortfall.before).length ≤ shortfall.record.output.length :=
    Nat.sub_le_of_le_add (Nat.add_comm _ _ ▸ Nat.le_of_lt isIn.past)
  rw [isIn.whole_output, List.take_append, List.take_of_length_le isIn.within,
    List.take_append_of_le_length inRecord, ← isIn.written, isIn.stops, outputOf_append,
    outputOf_cons, outputOf_nil, List.append_nil]
  rfl

end Shortfall.IsIn

theorem Sink.isLimited_ofRoom (total : Nat) (refusal : FaultKind) :
    Sink.unbounded.forgetOutput.IsLimited total refusal (Sink.ofRoom total refusal).forgetOutput :=
  ⟨rfl, Nat.zero_le total, rfl⟩

/-- A sink with room for a given number of bytes gets the bytes that a sink with no limit gets, up
to that number. If these are all, nothing else differs; if not, the sequence ends within the
message that goes past them. -/
theorem recordSequence_limited (kind : Kind) (limits : Limits) (count : Nat) (source : Source)
    (total : Nat) (refusal : FaultKind) :
    let records := recordSequence kind limits count .unbounded source
    let limited := recordSequence kind limits count (.ofRoom total refusal) source
    (∀ sink, relaySequence kind limits count sink source =
        ((recordSequence kind limits count sink source).1.filterMap MessageRecord.report,
          (recordSequence kind limits count sink source).2)) ∧
      outputOf limited.1 = (outputOf records.1).take total ∧
      ((outputOf records.1).length ≤ total → limited = records) ∧
      (total < (outputOf records.1).length →
        ∃ shortfall : Shortfall,
          shortfall.IsIn total refusal kind limits count .unbounded (.ofRoom total refusal)
            source) := by
  intro records limited
  refine ⟨fun sink => relaySequence_eq kind limits count sink source, ?_⟩
  rcases recordSequence_eq_or_isIn kind limits count source (Sink.isLimited_ofRoom total refusal)
    with ⟨within, same⟩ | ⟨shortfall, isIn⟩
  · have sameRecords : limited = records := same
    refine ⟨?_, fun _ => sameRecords, fun past => absurd within (Nat.not_le_of_lt past)⟩
    rw [sameRecords, List.take_of_length_le within]
  · refine ⟨isIn.output, fun within => ?_, fun _ => ⟨shortfall, isIn⟩⟩
    exact absurd within (Nat.not_le_of_lt isIn.past_output)

/-- A header that says that the body is in chunks. -/
def chunkedHeader : Header :=
  ⟨Bytes.ofChars ['H', 'T', 'T', 'P', '/', '1', ' ', '2', '0', '0'],
    [⟨Field.transferEncoding, Bytes.ofChars ['c', 'h', 'u', 'n', 'k', 'e', 'd']⟩], 42, .chunked⟩

/-- A response of nothing but a status line, and one with a chunk. -/
def chunkBehindBare : Source :=
  ⟨[.segment (bareResponse [Bytes.lineFeed] ++ chunkedHeader.encode), .delay 3,
    .segment (Bytes.ofChars ['3', '\n', 'a', 'b', 'c', '\r', '\n', '0', '\n', '\n', 'H'])],
    .stalled⟩

theorem recordSequence_chunkBehindBare :
    recordSequence .response ⟨17, 1, 32, 1000⟩ 2 (.ofRoom 59 .timedOut) chunkBehindBare =
      ([.of (.done ⟨⟨bareStatusLine, [], 12, .empty⟩, 0,
            (Sink.unbounded.write (bareResponse Bytes.lineEnd)).1⟩),
          .cutOff chunkedHeader .timedOut
            (chunkedHeader.encode ++ Bytes.ofChars ['3', '\n', 'a'])],
        ⟨[.segment (Bytes.ofChars ['b', 'c', '\r', '\n', '0', '\n', '\n', 'H'])], .stalled⟩) := by
  rfl

/-- A limit that is just enough, and one behind the first byte of the chunk. -/
theorem recordSequence_limited_chunk :
    let limits : Limits := ⟨17, 1, 32, 1000⟩
    let records := recordSequence .response limits 2 .unbounded chunkBehindBare
    let first := Bytes.ofChars ['3', '\n', 'a']
    ((outputOf records.1).length ≤ 66 ∧
        recordSequence .response limits 2 (.ofRoom 66 .timedOut) chunkBehindBare = records) ∧
      59 < (outputOf records.1).length ∧
      ∃ shortfall : Shortfall,
        shortfall.IsIn 59 .timedOut .response limits 2 .unbounded (.ofRoom 59 .timedOut)
            chunkBehindBare ∧
          shortfall.written = shortfall.header.encode ++ first ∧
          Body.IsBeforeData shortfall.header.framing first := by
  intro limits records first
  have all : (outputOf records.1).length ≤ 66 := by decide +kernel
  have more : 59 < (outputOf records.1).length := by decide +kernel
  have enough := recordSequence_limited .response limits 2 chunkBehindBare 66 .timedOut
  have tooLittle := recordSequence_limited .response limits 2 chunkBehindBare 59 .timedOut
  rcases tooLittle.2.2.2 more with ⟨shortfall, isIn⟩
  have stops : shortfall.before ++ [_] = [_] ++ [_] :=
    congrArg Prod.fst (isIn.stops.symm.trans recordSequence_chunkBehindBare)
  rcases MessageRecord.cutOff_inj (List.singleton_inj.mp (List.append_inj' stops rfl).2) with
    ⟨header, written⟩
  refine ⟨⟨all, enough.2.2.1 all⟩, more, shortfall, isIn, ?_⟩
  rw [header, written]
  refine ⟨rfl, [], [0x33], [0x33, Bytes.lineFeed], [0x61], 3, rfl, .none, ?_, rfl, by decide⟩
  exact ⟨[0x33], by decide, rfl, rfl, by decide⟩

end Sequence

end HttpRelay
