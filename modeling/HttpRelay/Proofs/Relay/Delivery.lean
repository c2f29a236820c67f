import HttpRelay.Proofs.Relay.BodyAccount
import HttpRelay.Proofs.Relay.PassTracking

/-!
# Delivery

A pass goes through exactly if its stream begins with a whole message and its sink takes the
forwarded form of it (`Pass.goesThrough_iff`). This holds for every division of the
bytes, every delay between them, and every ending of the source, so all that is said of whole
messages elsewhere is said of the grammar of messages.
-/

namespace HttpRelay

namespace Pass

section Scan

variable {receiver next : Receiver} {header : Header} {body : Body} {sink : Sink}
  {bytes rest : Bytes} {error : HeaderError} {step : Body.Step}

/-- What a scan of a body means for the pass. -/
def ofBodyScan (header : Header) :
    Scan (Flow Body) Body.Relayed Body.Broken → Scan (Flow Pass) Delivered Abandoned
  | .more ⟨body, sink⟩ => .more ⟨.relaying header body, sink⟩
  | .done relayed rest => .done ⟨header, relayed.count, relayed.sink⟩ rest
  | .failed broken rest => .failed (ofBroken header broken) rest

theorem scan_relaying (header : Header) (body : Body) (sink : Sink) (bytes : Bytes) :
    scanner.scan ⟨.relaying header body, sink⟩ bytes =
      ofBodyScan header (Body.scanner.scan ⟨body, sink⟩ bytes) := by
  induction bytes generalizing body sink with
  | nil => rfl
  | cons byte bytes ih =>
      have accepted : scanner.accept ⟨.relaying header body, sink⟩ byte =
          ofBodyStep header (Body.scanner.accept ⟨body, sink⟩ byte) :=
        accept_relaying
      simp only [Scanner.scan, accepted]
      cases Body.scanner.accept ⟨body, sink⟩ byte with
      | more flow => exact ih flow.progress flow.sink
      | done relayed => rfl
      | failed broken => rfl
      | refused broken => rfl

theorem resume_ofBodyStep (header : Header) (step : Body.Step) (rest : Bytes) :
    scanner.resume rest (ofBodyStep header step) =
      ofBodyScan header (Body.scanner.resume rest step) := by
  cases step with
  | more flow => exact scan_relaying header flow.progress flow.sink rest
  | done relayed => rfl
  | failed broken => rfl
  | refused broken => rfl

theorem ofBodyScan_eq_done_iff {scan : Scan (Flow Body) Body.Relayed Body.Broken}
    {delivered : Delivered} :
    ofBodyScan header scan = .done delivered rest ↔
      scan = .done ⟨delivered.count, delivered.sink⟩ rest ∧ delivered.header = header := by
  rcases delivered with ⟨deliveredHeader, count, deliveredSink⟩
  cases scan with
  | more flow => simp [ofBodyScan]
  | done relayed left =>
      rcases relayed with ⟨relayedCount, relayedSink⟩
      simp only [ofBodyScan, Scan.done.injEq, Delivered.mk.injEq, Body.Relayed.mk.injEq]
      constructor
      · rintro ⟨⟨rfl, rfl, rfl⟩, rfl⟩
        exact ⟨⟨⟨rfl, rfl⟩, rfl⟩, rfl⟩
      · rintro ⟨⟨⟨rfl, rfl⟩, rfl⟩, rfl⟩
        exact ⟨⟨rfl, rfl, rfl⟩, rfl⟩
  | failed broken left => simp [ofBodyScan]

/-- A pass that receives its header does what the receiver does, up to the header. -/
theorem scan_receiving (receiver : Receiver) (sink : Sink) (bytes : Bytes) :
    match Receiver.scanner.scan receiver bytes with
    | .more next => scanner.scan ⟨.receiving receiver, sink⟩ bytes = .more ⟨.receiving next, sink⟩
    | .done header rest =>
        scanner.scan ⟨.receiving receiver, sink⟩ bytes =
          scanner.resume rest (forward header sink)
    | .failed error rest =>
        ∃ hadStarted, scanner.scan ⟨.receiving receiver, sink⟩ bytes =
          .failed (ofHeaderError hadStarted sink error) rest := by
  induction bytes generalizing receiver with
  | nil => rfl
  | cons byte bytes ih =>
      cases accepted : Receiver.scanner.accept receiver byte with
      | more next =>
          have passAccepted : scanner.accept ⟨.receiving receiver, sink⟩ byte =
              .more ⟨.receiving next, sink⟩ :=
            accept_receiving_eq_more_iff.mpr (Or.inl ⟨next, accepted, rfl⟩)
          rw [Scanner.scan_cons_of_more accepted, Scanner.scan_cons_of_more passAccepted]
          exact ih next
      | done header =>
          rw [Scanner.scan_cons_of_done accepted]
          -- The last byte of the header is also the step that forwards it.
          have passAccepted : scanner.accept ⟨.receiving receiver, sink⟩ byte =
              forward header sink := by
            simp only [scanner, accept, show receiver.accept byte = .done header from accepted]
          simp only [Scanner.scan, passAccepted]
          cases forwarded : forward header sink with
          | more flow => rfl
          | done delivered => rfl
          | failed abandoned => rfl
          | refused abandoned => exact absurd forwarded forward_ne_refused
      | failed error =>
          rw [Scanner.scan_cons_of_failed accepted]
          exact ⟨_, Scanner.scan_cons_of_failed
            (accept_receiving_eq_failed_iff.mpr (Or.inl ⟨error, accepted, rfl⟩))⟩
      | refused error =>
          rw [Scanner.scan_cons_of_refused accepted]
          exact ⟨_, Scanner.scan_cons_of_refused
            (accept_receiving_eq_refused_iff.mpr (Or.inl ⟨error, accepted, rfl⟩))⟩

end Scan

variable {kind : Kind} {limits : Limits} {sink : Sink} {delivered : Delivered} {header : Header}
  {stream rest body : Bytes}

/-- A pass that took a whole message to its sink, and nothing else. -/
structure Delivered.Carries (origin : Sink) (body : Bytes) (delivered : Delivered) : Prop where
  count : delivered.count = body.length
  wrote : origin.write (delivered.header.encode ++ body) = (delivered.sink, none)
  flush : origin.flush = none

namespace Delivered.Carries

theorem takes (carries : delivered.Carries sink body) :
    sink.Takes (delivered.header.encode ++ body) := by
  refine ⟨?_, carries.flush⟩
  rw [carries.wrote]

theorem output (carries : delivered.Carries sink body) :
    delivered.sink.output = sink.output ++ (delivered.header.encode ++ body) :=
  Sink.output_of_written carries.wrote

theorem unique {other : Delivered} (carries : delivered.Carries sink body)
    (others : other.Carries sink body) (sameHeader : delivered.header = other.header) :
    delivered = other := by
  rcases delivered with ⟨header, count, deliveredSink⟩
  rcases other with ⟨_, otherCount, otherSink⟩
  cases sameHeader
  cases carries.wrote.symm.trans others.wrote
  cases carries.count.trans others.count.symm
  rfl

end Delivered.Carries

theorem carries_of_takes (takes : sink.Takes (header.encode ++ body)) :
    (Delivered.mk header body.length (sink.write (header.encode ++ body)).1).Carries sink body :=
  ⟨rfl, Prod.ext rfl takes.whole, takes.flush⟩

/-- Behind the header, a pass goes through exactly if a whole body is next and the sink takes
header and body. -/
theorem resume_forward_eq_done_iff :
    scanner.resume stream (forward header sink) = .done delivered rest ↔
      delivered.header = header ∧
        ∃ body, stream = body ++ rest ∧ Body.IsWhole header.framing body ∧
          delivered.Carries sink body := by
  cases wrote : sink.write header.encode with
  | mk written fault =>
      cases fault with
      | some fault =>
          rw [forward_of_fault wrote]
          constructor
          · intro impossible
            cases impossible
          · rintro ⟨rfl, body, _, _, carries⟩
            have front := carries.takes.front.whole
            rw [wrote] at front
            cases front
      | none =>
          have flushes := Sink.flush_of_write wrote
          rw [forward_of_written wrote, resume_ofBodyStep, ofBodyScan_eq_done_iff,
            Body.resume_start_eq_done_iff]
          constructor
          · rintro ⟨⟨body, split, isWhole, carries⟩, rfl⟩
            refine ⟨rfl, body, split, isWhole, carries.count, ?_, flushes.symm.trans carries.flush⟩
            rw [Sink.write_append wrote]
            exact carries.wrote
          · rintro ⟨rfl, body, split, isWhole, carries⟩
            refine ⟨⟨body, split, isWhole, carries.count, ?_, flushes.trans carries.flush⟩, rfl⟩
            rw [← Sink.write_append wrote]
            exact carries.wrote

/-- A pass goes through exactly if the stream begins with a whole message and the sink takes
what is forwarded. -/
theorem scan_start_eq_done_iff :
    scanner.scan ⟨.start kind limits, sink⟩ stream = .done delivered rest ↔
      ∃ body, Message.IsFirst kind limits ⟨delivered.header, body⟩ stream rest ∧
        delivered.Carries sink body := by
  have received := scan_receiving (.start kind limits) sink stream
  constructor
  · intro scanned
    cases receives : Receiver.scanner.scan (.start kind limits) stream with
    | more next =>
        simp only [receives] at received
        cases received.symm.trans scanned
    | failed error left =>
        simp only [receives] at received
        rcases received with ⟨hadStarted, failed⟩
        cases failed.symm.trans scanned
    | done header behind =>
        simp only [receives] at received
        rcases resume_forward_eq_done_iff.mp (received.symm.trans scanned) with
          ⟨rfl, body, rfl, isWhole, carries⟩
        rcases Receiver.scan_start_eq_done_iff.mp receives with ⟨block, fields, split, accepts⟩
        exact ⟨body, ⟨⟨⟨block, fields, split, accepts⟩, Body.isWithin_of_isWhole isWhole⟩, isWhole⟩,
          carries⟩
  · rintro ⟨body, isFirst, carries⟩
    rcases isFirst.block with ⟨block, fields, split, accepts⟩
    have receives := Receiver.scan_start_eq_done_iff.mpr ⟨block, fields, split, accepts⟩
    simp only [receives] at received
    refine received.trans (resume_forward_eq_done_iff.mpr ?_)
    exact ⟨rfl, body, rfl, isFirst.isWhole, carries⟩

/-- What a pass that is under way knows of the bytes it took and of its sink. -/
def Accounts (kind : Kind) (limits : Limits) (origin : Sink) (taken : Bytes)
    (flow : Flow Pass) : Prop :=
  match flow.progress with
  | .receiving receiver =>
      flow.sink = origin ∧ Receiver.scanner.scan (.start kind limits) taken = .more receiver
  | .relaying header body =>
      ∃ block fields relayed begun, taken = block ++ relayed ∧
        HeaderBlock.Accepts kind limits block fields header ∧
        origin.write header.encode = (begun, none) ∧
        Body.Accounts header.framing begun relayed ⟨body, flow.sink⟩

/-- A pass that is under way receives its header, or relays the body behind it. -/
theorem cases_of_scan_more {flow : Flow Pass}
    (scanned : scanner.scan ⟨.start kind limits, sink⟩ stream = .more flow) :
    (∃ receiver, flow = ⟨.receiving receiver, sink⟩ ∧
        Receiver.scanner.scan (.start kind limits) stream = .more receiver) ∨
      ∃ header body last block fields relayed begun, flow = ⟨.relaying header body, last⟩ ∧
        stream = block ++ relayed ∧ HeaderBlock.Accepts kind limits block fields header ∧
        sink.write header.encode = (begun, none) ∧
        Body.scanner.resume relayed (Body.start header.framing begun) = .more ⟨body, last⟩ := by
  have received := scan_receiving (.start kind limits) sink stream
  cases receives : Receiver.scanner.scan (.start kind limits) stream with
  | more next =>
      simp only [receives] at received
      cases received.symm.trans scanned
      exact Or.inl ⟨next, rfl, rfl⟩
  | failed error left =>
      simp only [receives] at received
      rcases received with ⟨hadStarted, failed⟩
      cases failed.symm.trans scanned
  | done header behind =>
      simp only [receives] at received
      have resumed := received.symm.trans scanned
      rcases Receiver.scan_start_eq_done_iff.mp receives with ⟨block, fields, split, accepts⟩
      cases wrote : sink.write header.encode with
      | mk begun fault =>
          cases fault with
          | some fault =>
              rw [forward_of_fault wrote] at resumed
              cases resumed
          | none =>
              rw [forward_of_written wrote, resume_ofBodyStep] at resumed
              cases inBody : Body.scanner.resume behind (Body.start header.framing begun) with
              | more last =>
                  rw [inBody] at resumed
                  cases resumed
                  exact Or.inr ⟨header, last.progress, last.sink, block, fields, behind, begun, rfl,
                    split, accepts, wrote, inBody⟩
              | done relayed left =>
                  rw [inBody] at resumed
                  cases resumed
              | failed broken left =>
                  rw [inBody] at resumed
                  cases resumed

theorem accounts_of_scan {flow : Flow Pass}
    (scanned : scanner.scan ⟨.start kind limits, sink⟩ stream = .more flow) :
    Accounts kind limits sink stream flow := by
  rcases cases_of_scan_more scanned with
    ⟨receiver, rfl, receives⟩ |
    ⟨header, body, last, block, fields, relayed, begun, rfl, split, accepts, wrote, resumed⟩
  · exact ⟨rfl, receives⟩
  · exact ⟨block, fields, relayed, begun, split, accepts, wrote, .of_resume resumed⟩

theorem Accounts.flush_sink {flow : Flow Pass} (accounts : Accounts kind limits sink stream flow) :
    flow.sink.flush = sink.flush := by
  rcases flow with ⟨receiver | ⟨header, body⟩, flowSink⟩
  · rw [accounts.1]
  · rcases accounts with ⟨block, fields, relayed, begun, _, _, wrote, accounts⟩
    exact accounts.flush_sink.trans (Sink.flush_of_write wrote)

/-- A pass whose sink can be flushed never gives up a wait. -/
theorem patient_start (flushes : sink.flush = none) (bytes : Bytes) :
    scanner.Patient ⟨.start kind limits, sink⟩ bytes := by
  intro taken stop _ scanned
  have accounts := accounts_of_scan scanned
  rcases stop with ⟨receiver | ⟨header, body⟩, stopSink⟩
  · rfl
  · rcases accounts with ⟨block, fields, relayed, begun, _, _, wrote, accounts⟩
    have waits : Body.scanner.atWait ⟨body, stopSink⟩ = none :=
      accounts.patient ((Sink.flush_of_write wrote).trans flushes) [] [] _ List.prefix_rfl rfl
    exact Option.map_eq_none_iff.mpr waits

/-- A pass over a source that takes its first message to the sink, and leaves the given
bytes. -/
def GoesThrough (kind : Kind) (limits : Limits) (sink : Sink) (source : Source)
    (delivered : Delivered) (rest : Bytes) : Prop :=
  ∃ time items,
    scanner.read ⟨.start kind limits, sink⟩ source = ⟨time, .done delivered, items⟩ ∧
      Source.bytesOf items = rest

theorem goesThrough_iff {source : Source} :
    GoesThrough kind limits sink source delivered rest ↔
      ∃ body, Message.IsFirst kind limits ⟨delivered.header, body⟩ source.unread rest ∧
        delivered.Carries sink body := by
  rw [← scan_start_eq_done_iff]
  have within : LineWithinTaken ⟨.start kind limits, sink⟩ := Nat.zero_le _
  apply steady_scanner.run_done_iff within
  · intro _ _ _
    rfl
  · intro scanned
    rcases scan_start_eq_done_iff.mp scanned with ⟨body, _, carries⟩
    exact patient_start carries.flush _

end Pass

end HttpRelay
