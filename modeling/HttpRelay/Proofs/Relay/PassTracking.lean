import HttpRelay.Proofs.Message.HeaderGrammar
import HttpRelay.Proofs.Relay.BodyTracking
import HttpRelay.Proofs.Relay.Steps

/-!
# Tracking a message

A message of a stream is a header block and a body, and it is forwarded as its encoded header
with the body behind it. A pass that took some bytes of a stream has written nothing as long
as it receives the header; from then on, what it wrote is a part of the forwarded message,
counted from the front, and what it took does not go past the end of the message. Every byte
keeps this, and every way in which a pass can end leaves it so.
-/

namespace HttpRelay

/-- A message, with its header as it is forwarded. -/
structure Message where
  header : Header
  body : Bytes

namespace Message

/-- The bytes that forward a message. -/
def forwarded (message : Message) : Bytes :=
  message.header.encode ++ message.body

/-- A stream that begins with a header block and some of the body that belongs to it. -/
structure Begins (kind : Kind) (limits : Limits) (message : Message) (stream rest : Bytes) :
    Prop where
  block : ∃ block fields, stream = block ++ (message.body ++ rest) ∧
    HeaderBlock.Accepts kind limits block fields message.header
  isWithin : Body.IsWithin message.header.framing message.body

/-- A stream that begins with a whole message. -/
structure IsFirst (kind : Kind) (limits : Limits) (message : Message) (stream rest : Bytes) :
    Prop extends Begins kind limits message stream rest where
  isWhole : Body.IsWhole message.header.framing message.body

variable {kind : Kind} {limits : Limits} {message other : Message} {stream rest otherRest : Bytes}

theorem Begins.read (begins : Begins kind limits message stream rest) :
    HeaderBlock.read kind limits stream = .ok (message.header, message.body ++ rest) := by
  rcases begins.block with ⟨block, fields, stream, accepts⟩
  exact HeaderBlock.read_eq_ok_iff.mpr ⟨block, fields, stream, accepts⟩

theorem Begins.append (begins : Begins kind limits message stream rest) (more : Bytes) :
    Begins kind limits message (stream ++ more) (rest ++ more) := by
  rcases begins.block with ⟨block, fields, rfl, accepts⟩
  refine ⟨⟨block, fields, ?_, accepts⟩, begins.isWithin⟩
  simp only [List.append_assoc]

theorem IsFirst.append (isFirst : IsFirst kind limits message stream rest) (more : Bytes) :
    IsFirst kind limits message (stream ++ more) (rest ++ more) :=
  ⟨isFirst.toBegins.append more, isFirst.isWhole⟩

/-- Whatever a stream begins with is a part of its first message. -/
theorem Begins.body_prefix (begins : Begins kind limits other stream otherRest)
    (isFirst : IsFirst kind limits message stream rest) :
    other.header = message.header ∧ other.body <+: message.body := by
  have same := begins.read.symm.trans isFirst.read
  simp only [Except.ok.injEq, Prod.mk.injEq] at same
  rcases same with ⟨headers, bodies⟩
  have isPrefix : message.body <+: message.body ++ rest := List.prefix_append _ _
  have otherPrefix : other.body <+: message.body ++ rest := by
    rw [← bodies]
    exact List.prefix_append _ _
  refine ⟨headers, ?_⟩
  rcases List.prefix_or_prefix_of_prefix otherPrefix isPrefix with shorter | longer
  · exact shorter
  · have isWhole := isFirst.isWhole
    rw [← headers] at isWhole
    exact begins.isWithin message.body longer isWhole ▸ List.prefix_rfl

/-- A stream has at most one first message. -/
theorem IsFirst.unique (isFirst : IsFirst kind limits message stream rest)
    (otherFirst : IsFirst kind limits other stream otherRest) :
    message = other ∧ rest = otherRest := by
  have same := isFirst.read.symm.trans otherFirst.read
  simp only [Except.ok.injEq, Prod.mk.injEq] at same
  rcases isFirst.toBegins.body_prefix otherFirst with ⟨headers, isPrefix⟩
  rcases otherFirst.toBegins.body_prefix isFirst with ⟨_, otherPrefix⟩
  have bodies : message.body = other.body :=
    isPrefix.eq_of_length_le otherPrefix.length_le
  rcases message with ⟨header, body⟩
  rcases other with ⟨otherHeader, otherBody⟩
  cases headers
  cases bodies
  exact ⟨rfl, List.append_cancel_left same.2⟩

end Message

namespace Receiver

theorem accepts_of_scan_done {kind : Kind} {limits : Limits} {bytes : Bytes} {header : Header}
    (scanned : scanner.scan (.start kind limits) bytes = .done header []) :
    ∃ fields, HeaderBlock.Accepts kind limits bytes fields header := by
  have read := endOf_feed_start kind limits bytes
  simp only [Scanner.feed_eq_done_iff.mpr scanned] at read
  rcases HeaderBlock.read_eq_ok_iff.mp read.symm with ⟨block, fields, bytesEq, accepts⟩
  simp only [List.append_nil] at bytesEq
  subst block
  exact ⟨fields, accepts⟩

end Receiver

namespace Pass

/-- The bytes that were taken by a pass which writes to the given sink. -/
def Tracks (kind : Kind) (limits : Limits) (origin : Sink) (taken : Bytes) (flow : Flow Pass) :
    Prop :=
  match flow.progress with
  | .receiving receiver =>
      flow.sink = origin ∧ Receiver.scanner.scan (.start kind limits) taken = .more receiver
  | .relaying header body =>
      ∃ block fields relayed begun, taken = block ++ relayed ∧
        HeaderBlock.Accepts kind limits block fields header ∧ origin.Grows begun ∧
        begun.output = origin.output ++ header.encode ∧
        Body.Tracks header.framing begun relayed ⟨body, flow.sink⟩

/-- A message went through, and this is all that was taken and written. -/
def Delivers (kind : Kind) (limits : Limits) (origin : Sink) (taken : Bytes)
    (delivered : Delivered) : Prop :=
  ∃ body, Message.IsFirst kind limits ⟨delivered.header, body⟩ taken [] ∧
    origin.Grows delivered.sink ∧
    delivered.sink.output = origin.output ++ Message.forwarded ⟨delivered.header, body⟩

/-- A pass ended early: without a header it left the sink alone and nothing was relayed, and
under a header it wrote a part of the message. -/
def Leaves (kind : Kind) (limits : Limits) (origin : Sink) (taken : Bytes)
    (abandoned : Abandoned) : Prop :=
  match abandoned.accepted with
  | none => abandoned.sink = origin ∧ ∀ error, abandoned.failure ≠ .relay error
  | some header =>
      ∃ body, Message.Begins kind limits ⟨header, body⟩ taken [] ∧
        origin.Grows abandoned.sink ∧
        abandoned.sink.output <+: origin.output ++ Message.forwarded ⟨header, body⟩

def Step.Tracks (kind : Kind) (limits : Limits) (origin : Sink) (taken : Bytes) : Step → Prop
  | .more next => Pass.Tracks kind limits origin taken next
  | .done delivered => Delivers kind limits origin taken delivered
  | .failed abandoned | .refused abandoned => Leaves kind limits origin taken abandoned

variable {kind : Kind} {limits : Limits} {origin : Sink} {taken : Bytes} {flow : Flow Pass}

theorem tracks_start (kind : Kind) (limits : Limits) (origin : Sink) :
    Tracks kind limits origin [] ⟨.start kind limits, origin⟩ :=
  ⟨rfl, rfl⟩

theorem tracks_ofBodyStep {header : Header} {block relayed : Bytes} {fields : List Field}
    {begun : Sink} (accepts : HeaderBlock.Accepts kind limits block fields header)
    (grows : origin.Grows begun) (output : begun.output = origin.output ++ header.encode)
    {step : Body.Step} (tracks : step.Tracks header.framing begun relayed) :
    (ofBodyStep header step).Tracks kind limits origin (block ++ relayed) := by
  have begins : Body.IsWithin header.framing relayed →
      Message.Begins kind limits ⟨header, relayed⟩ (block ++ relayed) [] := fun isWithin =>
    ⟨⟨block, fields, by simp, accepts⟩, isWithin⟩
  have forwarded : begun.output ++ relayed =
      origin.output ++ Message.forwarded ⟨header, relayed⟩ := by
    simp only [output, Message.forwarded, List.append_assoc]
  cases step with
  | more next => exact ⟨block, fields, relayed, begun, rfl, accepts, grows, output, tracks⟩
  | done delivered =>
      rcases tracks with ⟨isWhole, isWithin, further, written⟩
      exact ⟨relayed, ⟨begins isWithin, isWhole⟩, grows.trans further, written.trans forwarded⟩
  | failed broken =>
      rcases tracks with ⟨isWithin, further, written⟩
      exact ⟨relayed, begins isWithin, grows.trans further, forwarded ▸ written⟩
  | refused broken =>
      rcases tracks with ⟨isWithin, further, written⟩
      exact ⟨relayed, begins isWithin, grows.trans further, forwarded ▸ written⟩

theorem tracks_forward {header : Header} {block : Bytes} {fields : List Field}
    (accepts : HeaderBlock.Accepts kind limits block fields header) :
    (forward header origin).Tracks kind limits origin block := by
  cases wrote : origin.write header.encode with
  | mk written fault =>
      have grows := Sink.grows_of_write wrote
      cases fault with
      | none =>
          have tracks := tracks_ofBodyStep accepts grows (Sink.output_of_written wrote)
            (Body.tracks_start header.framing written)
          rwa [forward_of_written wrote, ← List.append_nil block]
      | some fault =>
          simp only [forward_of_fault wrote]
          refine ⟨[], ⟨⟨block, fields, by simp, accepts⟩, Body.isWithin_nil⟩, grows, ?_⟩
          simp only [Message.forwarded, List.append_nil]
          exact Sink.output_of_fault wrote

theorem Tracks.accept (tracks : Tracks kind limits origin taken flow) (byte : UInt8) :
    (accept flow byte).Tracks kind limits origin (taken ++ [byte]) := by
  rcases flow with ⟨receiver | ⟨header, body⟩, sink⟩
  · rcases tracks with ⟨rfl, scanned⟩
    have scannedByte : Receiver.scanner.scan (.start kind limits) (taken ++ [byte]) =
        Receiver.scanner.scan receiver [byte] :=
      Scanner.scan_append_of_more scanned
    simp only [Pass.accept]
    cases accepted : receiver.accept byte with
    | more next =>
        rw [Scanner.scan_cons_of_more accepted] at scannedByte
        exact ⟨rfl, scannedByte⟩
    | done header =>
        rw [Scanner.scan_cons_of_done accepted] at scannedByte
        rcases Receiver.accepts_of_scan_done scannedByte with ⟨fields, accepts⟩
        exact tracks_forward accepts
    | failed error => exact ⟨rfl, fun _ => by simp [ofHeaderError]⟩
    | refused error => exact ⟨rfl, fun _ => by simp [ofHeaderError]⟩
  · rcases tracks with ⟨block, fields, relayed, begun, rfl, accepts, grows, output, tracks⟩
    simp only [accept_relaying, List.append_assoc]
    exact tracks_ofBodyStep accepts grows output (tracks.accept byte)

/-- An end of a pass that changes nothing about what was written and accepted. -/
structure Abandoned.IsAt (flow : Flow Pass) (abandoned : Abandoned) : Prop where
  accepted : abandoned.accepted = flow.progress.header?
  sink : abandoned.sink = flow.sink
  cause : abandoned.accepted = none → ∀ error, abandoned.failure ≠ .relay error

theorem isAt_abandon_interrupted (flow : Flow Pass) : (abandon flow .interrupted).IsAt flow :=
  ⟨rfl, rfl, fun _ _ impossible => by cases impossible⟩

theorem isAt_abandon_timeout (flow : Flow Pass) (allowed : Duration) :
    (abandon flow (.timeout allowed)).IsAt flow :=
  ⟨rfl, rfl, fun _ _ impossible => by cases impossible⟩

theorem isAt_ofHeaderError {receiver : Receiver} {hadStarted : Bool} {sink : Sink}
    {error : HeaderError} :
    (ofHeaderError hadStarted sink error).IsAt ⟨.receiving receiver, sink⟩ :=
  ⟨rfl, rfl, fun _ _ impossible => by cases impossible⟩

theorem isAt_ofBroken {header : Header} {body : Body} {sink : Sink} {broken : Body.Broken}
    (same : broken.sink = sink) : (ofBroken header broken).IsAt ⟨.relaying header body, sink⟩ :=
  ⟨rfl, same, fun noHeader => by cases noHeader⟩

theorem isAt_of_segmentEnd {abandoned : Abandoned}
    (ended : scanner.atSegmentEnd flow = some abandoned) : abandoned.IsAt flow := by
  rcases flow with ⟨receiver | ⟨header, body⟩, sink⟩
  · rcases Option.map_eq_some_iff.mp ended with ⟨error, _, rfl⟩
    exact isAt_ofHeaderError
  · rcases Option.map_eq_some_iff.mp ended with ⟨broken, bodyEnded, rfl⟩
    rcases Body.segmentEndError_eq_some_iff.mp bodyEnded with ⟨_, rfl⟩
    exact isAt_ofBroken rfl

theorem isAt_of_wait {abandoned : Abandoned} (waited : scanner.atWait flow = some abandoned) :
    abandoned.IsAt flow := by
  rcases flow with ⟨receiver | ⟨header, body⟩, sink⟩
  · -- A receiver waits without giving up.
    cases waited
  · rcases Option.map_eq_some_iff.mp waited with ⟨broken, bodyWaited, rfl⟩
    apply isAt_ofBroken
    change Body.waitError _ = some broken at bodyWaited
    simp only [Body.waitError] at bodyWaited
    split at bodyWaited
    · split at bodyWaited
      · cases bodyWaited
      · cases bodyWaited
        rfl
    · cases bodyWaited

theorem isAt_cut (flow : Flow Pass) (cut : Cut) : (scanner.atCut flow cut).IsAt flow := by
  rcases flow with ⟨receiver | ⟨header, body⟩, sink⟩
  · exact isAt_ofHeaderError
  · exact isAt_ofBroken rfl

namespace Tracks

theorem leaves (tracks : Tracks kind limits origin taken flow) {abandoned : Abandoned}
    (isAt : abandoned.IsAt flow) : Leaves kind limits origin taken abandoned := by
  rcases abandoned with ⟨failure, hadStarted, accepted, sink⟩
  rcases isAt with ⟨rfl, rfl, cause⟩
  rcases flow with ⟨receiver | ⟨header, body⟩, sink⟩
  · exact ⟨tracks.1, cause rfl⟩
  · rcases tracks with ⟨block, fields, relayed, begun, rfl, accepts, grows, output, tracks⟩
    refine ⟨relayed, ⟨⟨block, fields, by simp, accepts⟩, tracks.isWithin⟩,
      grows.trans tracks.grows, ?_⟩
    rw [Message.forwarded, ← List.append_assoc, ← output]
    exact tracks.output_prefix

theorem scan (tracks : Tracks kind limits origin taken flow) (bytes : Bytes) :
    match scanner.scan flow bytes with
    | .more next => Tracks kind limits origin (taken ++ bytes) next
    | .done delivered rest =>
        ∃ consumed, bytes = consumed ++ rest ∧
          Delivers kind limits origin (taken ++ consumed) delivered
    | .failed abandoned _ =>
        ∃ seen, seen <+: bytes ∧ Leaves kind limits origin (taken ++ seen) abandoned := by
  induction bytes generalizing taken flow with
  | nil =>
      simp only [List.append_nil]
      exact tracks
  | cons byte bytes ih =>
      -- The first byte carries the invariant over to where the others are taken.
      have step := tracks.accept byte
      have isPrefix : [byte] <+: byte :: bytes := ⟨bytes, rfl⟩
      cases accepted : scanner.accept flow byte with
      | more next =>
          simp only [show Pass.accept flow byte = .more next from accepted] at step
          have others := ih step
          simp only [Scanner.scan_cons_of_more accepted]
          cases scanned : scanner.scan next bytes with
          | more last =>
              simp only [scanned] at others
              rw [List.append_cons]
              exact others
          | done delivered rest =>
              simp only [scanned] at others
              rcases others with ⟨consumed, rfl, delivers⟩
              refine ⟨byte :: consumed, rfl, ?_⟩
              rw [List.append_cons]
              exact delivers
          | failed abandoned rest =>
              simp only [scanned] at others
              rcases others with ⟨seen, seenPrefix, leaves⟩
              refine ⟨byte :: seen, List.cons_prefix_cons.mpr ⟨rfl, seenPrefix⟩, ?_⟩
              rw [List.append_cons]
              exact leaves
      | done delivered =>
          simp only [show Pass.accept flow byte = .done delivered from accepted] at step
          simp only [Scanner.scan_cons_of_done accepted]
          exact ⟨[byte], rfl, step⟩
      | failed abandoned =>
          simp only [show Pass.accept flow byte = .failed abandoned from accepted] at step
          simp only [Scanner.scan_cons_of_failed accepted]
          exact ⟨[byte], isPrefix, step⟩
      | refused abandoned =>
          simp only [show Pass.accept flow byte = .refused abandoned from accepted] at step
          simp only [Scanner.scan_cons_of_refused accepted]
          exact ⟨[byte], isPrefix, step⟩

theorem feed (tracks : Tracks kind limits origin taken flow) (bytes : Bytes) :
    match scanner.feed flow bytes with
    | .more next => Tracks kind limits origin (taken ++ bytes) next
    | .done delivered rest =>
        ∃ consumed, bytes = consumed ++ rest ∧
          Delivers kind limits origin (taken ++ consumed) delivered
    | .failed abandoned _ =>
        ∃ seen, seen <+: bytes ∧ Leaves kind limits origin (taken ++ seen) abandoned := by
  have scanTracks := tracks.scan bytes
  simp only [Scanner.feed_eq_endSegment_scan]
  cases scanned : scanner.scan flow bytes with
  | more last =>
      simp only [scanned] at scanTracks
      cases ended : scanner.atSegmentEnd last with
      | none =>
          simp only [Scanner.endSegment, ended]
          exact scanTracks
      | some abandoned =>
          simp only [Scanner.endSegment, ended]
          exact ⟨bytes, List.prefix_rfl, Tracks.leaves scanTracks (isAt_of_segmentEnd ended)⟩
  | done delivered rest =>
      simp only [scanned] at scanTracks
      exact scanTracks
  | failed abandoned rest =>
      simp only [scanned] at scanTracks
      exact scanTracks

/-- Whatever ends a pass early leaves a part of the message. -/
theorem leaves_of_failsAt (tracks : Tracks kind limits origin taken flow)
    {alarm : Alarm (Flow Pass) Abandoned} {last : Bytes} {abandoned : Abandoned}
    (rings : ∀ {now time arrival error}, alarm flow now arrival = some (time, error) →
      error.IsAt flow)
    (fails : scanner.FailsAt alarm flow last abandoned) :
    Leaves kind limits origin (taken ++ last) abandoned := by
  have unmoved : ∀ {abandoned : Abandoned}, abandoned.IsAt flow →
      Leaves kind limits origin (taken ++ []) abandoned := by
    intro abandoned isAt
    simp only [List.append_nil]
    exact tracks.leaves isAt
  cases fails with
  | @onByte byte _ accepted =>
      have step := tracks.accept byte
      simp only [show Pass.accept flow byte = .failed abandoned from accepted] at step
      exact step
  | @beforeByte byte _ accepted =>
      have step := tracks.accept byte
      simp only [show Pass.accept flow byte = .refused abandoned from accepted] at step
      exact step
  | onSegmentEnd ended => exact unmoved (isAt_of_segmentEnd ended)
  | onWait waited => exact unmoved (isAt_of_wait waited)
  | onCut cut => exact unmoved (isAt_cut flow cut)
  | onAlarm rang => exact unmoved (rings rang)

end Tracks

end Pass

end HttpRelay
