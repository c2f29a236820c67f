import HttpRelay.Relay.Pass

/-!
# Relaying messages one after another

A source may hold any number of messages. They are passed on in order, up to the first that
fails.
-/

namespace HttpRelay

/-- What became of one message of a sequence. -/
inductive MessageReport where
  | notReceived (error : HeaderError)
  /-- The header was accepted. The body went on in full, with the given length, or not. -/
  | received (header : Header) (relayed : Except BodyError Nat) (output : Bytes)

namespace MessageReport

/-- What a pass that failed reports. -/
def ofAbandoned (abandoned : Pass.Abandoned) : Option MessageReport :=
  match abandoned.accepted, abandoned.failure with
  | none, .header error => some (.notReceived error)
  | some header, .relay error => some (.received header (.error error) abandoned.sink.output)
  | _, _ => none

end MessageReport

/-- Passes on up to the given number of messages: a report on each, and the source with
what was left. -/
def relaySequence (kind : Kind) (limits : Limits) :
    Nat → Sink → Source → List MessageReport × Source
  | 0, _, source => ([], source)
  | count + 1, sink, source =>
      let run := Pass.scanner.read ⟨.start kind limits, sink.forgetOutput⟩ source
      let rest : Source := ⟨run.items, source.ending⟩
      match run.outcome with
      | .done delivered =>
          let (reports, left) := relaySequence kind limits count delivered.sink rest
          (.received delivered.header (.ok delivered.count) delivered.sink.output :: reports, left)
      | .failed abandoned => ((MessageReport.ofAbandoned abandoned).toList, rest)
      | .waiting _ => ([], rest)

end HttpRelay
