import HttpRelay.Proofs.Relay.Delivery
import HttpRelay.Proofs.Relay.Segmentation
import HttpRelay.Proofs.Relay.Succession

/-!
# The boundaries of messages

Where a message ends does not depend on what comes behind it. A message that goes through
alone goes through in the same way in front of anything else, which is left unread; so
messages that are joined go through one after another, each as it does alone
(`relays_joined`).
-/

namespace HttpRelay

variable {kind : Kind} {limits : Limits}

namespace Sink

@[simp]
theorem output_forgetOutput (sink : Sink) : sink.forgetOutput.output = [] := rfl

theorem Takes.forgetOutput {sink : Sink} {bytes : Bytes} (takes : sink.Takes bytes) :
    sink.forgetOutput.Takes bytes := by
  refine ⟨?_, takes.flush⟩
  have whole := takes.whole
  rcases sink with ⟨room, refusal, flushRefusal, record⟩
  cases room with
  | none => rfl
  | some room => exact whole

end Sink

namespace MessageReport

/-- The bytes that were written for the message. -/
def output : MessageReport → Bytes
  | .notReceived _ => []
  | .received _ _ output => output

/-- A message that goes through when nothing else is there, and what is reported of it. -/
def IsOfAlone (kind : Kind) (limits : Limits) (bytes : Bytes) (report : MessageReport) : Prop :=
  ∃ sink source left, source.unread = bytes ∧
    relaySequence kind limits 1 sink source = ([report], left) ∧
    report.isDelivered = true ∧ left.unread = []

end MessageReport

namespace Message

/-- What is reported of a message that goes through. -/
def report (message : Message) : MessageReport :=
  .received message.header (.ok message.body.length) message.forwarded

end Message

/-- What is reported of a message that goes through alone tells the message. -/
theorem MessageReport.IsOfAlone.exists_message {bytes : Bytes} {report : MessageReport}
    (alone : report.IsOfAlone kind limits bytes) :
    ∃ message, Message.IsFirst kind limits message bytes [] ∧ report = message.report := by
  rcases alone with ⟨sink, source, left, rfl, reported, isDelivered, nothingLeft⟩
  cases ran : Pass.scanner.read ⟨.start kind limits, sink.forgetOutput⟩ source with
  | mk time outcome items =>
      cases outcome with
      | done delivered =>
          rw [relaySequence_of_done ran] at reported
          simp only [relaySequence, Prod.mk.injEq, List.cons.injEq, and_true] at reported
          rcases reported with ⟨rfl, rfl⟩
          rcases Pass.goesThrough_iff.mp ⟨time, items, ran, nothingLeft⟩ with
            ⟨body, isFirst, carries⟩
          refine ⟨⟨delivered.header, body⟩, isFirst, ?_⟩
          rw [Message.report, Message.forwarded, carries.count, carries.output,
            Sink.output_forgetOutput, List.nil_append]
      | failed abandoned =>
          rcases Pass.exists_report_of_read_failed ran with ⟨other, otherEq, notDelivered⟩
          rw [relaySequence_of_failed ran, otherEq] at reported
          cases reported
          rw [notDelivered] at isDelivered
          cases isDelivered
      | waiting stop =>
          rw [relaySequence, ran] at reported
          cases reported

/-- Messages that a source holds one after another go through to a sink that takes them. -/
theorem relaySequence_of_successive {messages : List Message} {sink : Sink} {source : Source}
    {rest : Bytes} (successive : Message.Successive kind limits source.unread messages rest)
    (takes : sink.Takes (messages.flatMap Message.forwarded)) :
    ∃ left, relaySequence kind limits messages.length sink source =
        (messages.map Message.report, left) ∧ left.unread = rest := by
  generalize unread : source.unread = stream at successive
  -- The sink is general, since each message finds it as the one before left it.
  induction successive generalizing sink source with
  | none stream => exact ⟨source, rfl, unread⟩
  | @next stream between behind message messages isFirst others ih =>
      rw [List.flatMap_cons] at takes
      have carries := Pass.carries_of_takes takes.front.forgetOutput
      rcases Pass.goesThrough_iff.mpr ⟨message.body, unread ▸ isFirst, carries⟩ with
        ⟨time, items, ran, left⟩
      have further := takes.forgetOutput.rest carries.wrote
      have unreadItems : (Source.mk items source.ending).unread = between := left
      rcases ih further unreadItems with ⟨last, reports, unreadLast⟩
      refine ⟨last, ?_, unreadLast⟩
      rw [List.length_cons, relaySequence_of_done ran, reports, List.map_cons, Message.report,
        Message.forwarded]
      have output := carries.output
      rw [Sink.output_forgetOutput, List.nil_append] at output
      rw [output]

/-- Messages that go through alone, one behind the other. -/
theorem exists_successive {streams : List Bytes} {reports : List MessageReport}
    (alone : List.Forall₂ (fun bytes report => report.IsOfAlone kind limits bytes) streams
      reports) :
    ∃ messages : List Message, streams.length = messages.length ∧
      (∀ rest, Message.Successive kind limits (streams.flatten ++ rest) messages rest) ∧
      reports = messages.map Message.report := by
  induction alone with
  | nil => exact ⟨[], rfl, fun rest => .none rest, rfl⟩
  | cons first _ ih =>
      rcases first.exists_message with ⟨message, isFirst, rfl⟩
      rcases ih with ⟨messages, number, successive, rfl⟩
      refine ⟨message :: messages, congrArg (· + 1) number, ?_, rfl⟩
      intro rest
      rw [List.flatten_cons, List.append_assoc]
      exact .next (isFirst.append _) (successive rest)

theorem output_reports (messages : List Message) :
    (messages.map Message.report).flatMap MessageReport.output =
      messages.flatMap Message.forwarded := by
  rw [List.flatMap_map]
  rfl

theorem Message.IsFirst.length_eq {message : Message} {stream rest : Bytes}
    (isFirst : Message.IsFirst kind limits message stream rest) :
    stream.length = message.header.receivedLength + message.body.length + rest.length := by
  rcases isFirst.block with ⟨block, fields, rfl, accepts⟩
  rw [accepts.receivedLength, List.length_append, List.length_append]
  omega

theorem Header.totalLength_of_isWhole {header : Header} {body : Bytes} {total : Nat}
    (isWhole : Body.IsWhole header.framing body) (known : header.totalLength = some total) :
    total = header.receivedLength + body.length := by
  rw [Header.totalLength] at known
  cases framing : header.framing with
  | empty =>
      rw [framing] at isWhole known
      cases isWhole
      cases known
      rfl
  | length declared =>
      rw [framing] at isWhole known
      cases isWhole
      simp only [Option.ite_none_right_eq_some, Option.some.injEq] at known
      exact known.2.symm
  | chunked =>
      rw [framing] at known
      cases known

theorem Header.framing_of_totalLength {header : Header} (unknown : header.totalLength = none) :
    header.framing = .chunked ∨
      ∃ declared, header.framing = .length declared ∧
        Text.wordBound ≤ header.receivedLength + declared := by
  rw [Header.totalLength] at unknown
  cases framing : header.framing with
  | empty =>
      rw [framing] at unknown
      cases unknown
  | length declared =>
      rw [framing] at unknown
      simp only [ite_eq_right_iff, reduceCtorEq, imp_false, Nat.not_lt] at unknown
      exact Or.inr ⟨declared, rfl, unknown⟩
  | chunked => exact Or.inl rfl

/-- A message that goes through alone is as long as its header and its body, and goes through
in the same way with anything behind it. Messages that go through alone do so joined. -/
theorem relays_joined (kind : Kind) (limits : Limits) :
    (∀ (sink : Sink) (alone : Source) (delivered : Pass.Delivered),
      Pass.GoesThrough kind limits sink alone delivered [] →
        alone.unread.length = delivered.header.receivedLength + delivered.count ∧
          (∀ total, delivered.header.totalLength = some total → total = alone.unread.length) ∧
          (delivered.header.totalLength = none →
            delivered.header.framing = .chunked ∨
              ∃ declared, delivered.header.framing = .length declared ∧
                Text.wordBound ≤ delivered.header.receivedLength + declared) ∧
          ∀ source rest, source.unread = alone.unread ++ rest →
            Pass.GoesThrough kind limits sink source delivered rest) ∧
      ∀ (messages : List Bytes) (reports : List MessageReport) (sink : Sink) (source : Source)
        (rest : Bytes),
        List.Forall₂ (fun bytes report => report.IsOfAlone kind limits bytes) messages reports →
        sink.Takes (reports.flatMap MessageReport.output) →
        source.unread = messages.flatten ++ rest →
          ∃ left, relaySequence kind limits messages.length sink source = (reports, left) ∧
            left.unread = rest := by
  constructor
  · intro sink alone delivered goesThrough
    rcases Pass.goesThrough_iff.mp goesThrough with ⟨body, isFirst, carries⟩
    have length : alone.unread.length = delivered.header.receivedLength + delivered.count := by
      rw [carries.count]
      exact isFirst.length_eq
    refine ⟨length, ?_, Header.framing_of_totalLength, ?_⟩
    · intro total known
      rw [length, carries.count]
      exact Header.totalLength_of_isWhole isFirst.isWhole known
    · intro source rest unread
      apply Pass.goesThrough_iff.mpr
      refine ⟨body, ?_, carries⟩
      rw [unread]
      exact isFirst.append rest
  · intro messages reports sink source rest alone takes unread
    rcases exists_successive alone with ⟨whole, number, successive, rfl⟩
    rw [output_reports] at takes
    rw [number]
    apply relaySequence_of_successive _ takes
    rw [unread]
    exact successive rest

def bareStatusLine : Bytes :=
  Bytes.ofChars ['H', 'T', 'T', 'P', '/', '1', ' ', '2', '0', '4']

/-- A response of nothing but a status line, with the given line terminator. -/
def bareResponse (terminator : Bytes) : Bytes :=
  bareStatusLine ++ terminator ++ terminator

/-- Two responses that arrive with the beginning of a third. -/
def bareResponses : Source :=
  ⟨[.segment (bareResponse Bytes.lineEnd ++ bareStatusLine), .delay 5,
    .segment [Bytes.lineFeed, Bytes.lineFeed, 0x48]], .stalled⟩

theorem relays_joined_bareResponses :
    (∃ delivered,
      Pass.GoesThrough .response ⟨10, 0, 0, 1000⟩ .unbounded
          (.ofSegments [bareResponse Bytes.lineEnd] .finished) delivered [] ∧
        Pass.GoesThrough .response ⟨10, 0, 0, 1000⟩ .unbounded bareResponses delivered
          (bareResponse [Bytes.lineFeed] ++ [0x48])) ∧
      ∃ reports,
        List.Forall₂
            (fun bytes report => MessageReport.IsOfAlone .response ⟨10, 0, 0, 1000⟩ bytes report)
            [bareResponse Bytes.lineEnd, bareResponse [Bytes.lineFeed]] reports ∧
          ∃ left,
            relaySequence .response ⟨10, 0, 0, 1000⟩
                [bareResponse Bytes.lineEnd, bareResponse [Bytes.lineFeed]].length .unbounded
                bareResponses =
              (reports, left) ∧ left.unread = [0x48] := by
  have takes : ∀ bytes, Sink.unbounded.Takes bytes := Sink.takes_of_unbounded rfl rfl
  rcases relays_joined .response ⟨10, 0, 0, 1000⟩ with ⟨inFront, joined⟩
  constructor
  · have goesThrough : Pass.GoesThrough .response ⟨10, 0, 0, 1000⟩ .unbounded
        (.ofSegments [bareResponse Bytes.lineEnd] .finished)
        ⟨⟨bareStatusLine, [], 14, .empty⟩, 0,
          (Sink.unbounded.write (bareResponse Bytes.lineEnd)).1⟩ [] :=
      ⟨0, [.segment []], rfl, rfl⟩
    exact ⟨_, goesThrough, (inFront _ _ _ goesThrough).2.2.2 bareResponses _ rfl⟩
  · have first : MessageReport.IsOfAlone .response ⟨10, 0, 0, 1000⟩ (bareResponse Bytes.lineEnd)
        (.received ⟨bareStatusLine, [], 14, .empty⟩ (.ok 0) (bareResponse Bytes.lineEnd)) :=
      ⟨.unbounded, .ofSegments [bareResponse Bytes.lineEnd] .finished, ⟨[.segment []], .finished⟩,
        rfl, rfl, rfl, rfl⟩
    have second :
        MessageReport.IsOfAlone .response ⟨10, 0, 0, 1000⟩ (bareResponse [Bytes.lineFeed])
          (.received ⟨bareStatusLine, [], 12, .empty⟩ (.ok 0) (bareResponse Bytes.lineEnd)) :=
      ⟨.unbounded, .ofSegments [bareResponse [Bytes.lineFeed]] .finished,
        ⟨[.segment []], .finished⟩, rfl, rfl, rfl, rfl⟩
    have alone := List.Forall₂.cons first (.cons second .nil)
    exact ⟨_, alone, joined _ _ .unbounded bareResponses [0x48] alone (takes _) rfl⟩

end HttpRelay
