import HttpRelay.Relay.Pass
import HttpRelay.Relay.Side
import HttpRelay.Report.Log
import HttpRelay.Report.Metrics

/-!
# Exchange passes

One pass of an exchange, under a clock. A request goes from the client to the target, a
response from the target to the client. The header has to be complete within the receive
timeout, counted from the start of the pass; the body may take any time. Shutdown ends a
pass at once, in the header as well as in the body.

The client learns of a failure by a status response, with two exceptions. A client that
closed before its request began is not answered, and a response that has begun to go out is
never followed by a status, which would corrupt it.

Where two things happen at the same time, shutdown comes first, then the arrival of bytes,
and the end of the receive timeout comes last.
-/

namespace HttpRelay

namespace Pass

/-- The end of a pass whose header is not complete when its time is up. -/
def expired (limits : Limits) (flow : Flow Pass) : Option Abandoned :=
  match flow.progress with
  | .receiving _ => some (abandon flow (.timeout (.ofMilliseconds limits.receiveTimeout)))
  | .relaying .. => none

/-- The time at which a deadline ends a wait that would end with an arrival otherwise. -/
def expiry (deadline now : Nat) (arrival : Option Nat) : Option Nat :=
  if deadline ≤ now then some now
  else if arrival.all fun arrival => deadline < arrival then some deadline
  else none

/-- The time at which shutdown ends a wait that would end with an arrival otherwise. -/
def interruption (shutdown arrival : Option Nat) : Option Nat :=
  shutdown.filter fun time => arrival.all fun arrival => time ≤ arrival

/-- What can end a wait of a pass: shutdown at a given time, and while the header is being
received a deadline. -/
def alarm (shutdown : Option Nat) (limits : Limits) (deadline : Nat) :
    Alarm (Flow Pass) Abandoned := fun flow now arrival =>
  let interrupted := (interruption shutdown arrival).map fun time =>
    (time, abandon flow .interrupted)
  let expired := do return (← expiry deadline now arrival, ← expired limits flow)
  match interrupted, expired with
  | some first, some second => if first.1 ≤ second.1 then some first else some second
  | some first, none => some first
  | none, second => second

/-- Runs a pass that starts at time zero. Shutdown at time zero comes before the first
read. -/
def runUnder (kind : Kind) (limits : Limits) (shutdown : Option Nat) (source : Source)
    (sink : Sink) : Run (Flow Pass) Delivered Abandoned :=
  let flow : Flow Pass := ⟨.start kind limits, sink⟩
  if shutdown = some 0 then ⟨0, .failed (abandon flow .interrupted), source.items⟩
  else
    scanner.run (alarm shutdown limits limits.receiveTimeout) source.ending 0 flow source.items

end Pass

/-- What became of an attempt to send a status to the client. -/
inductive StatusSent where
  | sent
  /-- The client's socket was closed, which is no cause for concern. -/
  | clientClosed
  | failed
  deriving DecidableEq, Repr

/-- Writes a status response and flushes it. -/
def sendStatus (status : Status) (client : Sink) : Sink × StatusSent :=
  match client.write status.response with
  | (client, refusal) =>
      match refusal.or client.flush with
      | none => (client, .sent)
      | some fault => (client, if fault.kind.isSocketClosed then .clientClosed else .failed)

def StatusSent.entry : StatusSent → LogEntry
  | sent => ⟨.debug, "Sent status to client"⟩
  | clientClosed => ⟨.debug, "Client closed before status could be sent"⟩
  | failed => ⟨.warn, "Could not send HTTP status to the client"⟩

/-- A connection to one side, as the relay sees it. -/
structure Channel where
  source : Source
  sink : Sink
  deriving DecidableEq, Repr

namespace Channel

def withItems (items : List Source.Item) (channel : Channel) : Channel :=
  { channel with source := ⟨items, channel.source.ending⟩ }

def withSink (sink : Sink) (channel : Channel) : Channel :=
  { channel with sink := sink }

end Channel

/-- How a pass stands when nothing more happens. -/
inductive PassResult where
  | complete
  | failed (failure : Failure)
  /-- It waits for ever. -/
  | pending
  deriving DecidableEq, Repr

structure PassReport where
  kind : Kind
  result : PassResult
  time : Nat
  hasStarted : Bool
  hasHeader : Bool
  channels : Sides Channel
  /-- The status for which a response was made up, and what became of it. -/
  status : Option (Status × StatusSent)
  deriving DecidableEq, Repr

/-- Passes one message on, and tells the client if that fails. -/
def exchangePass (kind : Kind) (limits : LimitsByKind) (shutdown : Option Nat)
    (channels : Sides Channel) : PassReport :=
  let run := Pass.runUnder kind (limits.of kind) shutdown (channels.get kind.origin).source
    (channels.get kind.destination).sink
  let after (sink : Sink) : Sides Channel :=
    (channels.modify kind.origin (·.withItems run.items)).modify kind.destination (·.withSink sink)
  match run.outcome with
  | .done delivered => ⟨kind, .complete, run.time, true, true, after delivered.sink, none⟩
  | .waiting flow =>
      ⟨kind, .pending, run.time, flow.progress.hasStarted, flow.progress.header?.isSome,
        after flow.sink, none⟩
  | .failed abandoned =>
      let report (channels : Sides Channel) (status : Option (Status × StatusSent)) : PassReport :=
        ⟨kind, .failed abandoned.failure, run.time, abandoned.hadStarted,
          abandoned.accepted.isSome, channels, status⟩
      let relayed := after abandoned.sink
      match abandoned.status kind with
      | none => report relayed none
      | some status =>
          let (client, fate) := sendStatus status relayed.client.sink
          report (relayed.modify .client (·.withSink client)) (some (status, fate))

namespace PassReport

/-- How often the hook of a pass ran: for a request when its first byte came, for a response
when it was complete. -/
def hookRuns (report : PassReport) : Nat :=
  match report.kind with
  | .request => if report.hasStarted then 1 else 0
  | .response => if report.result = .complete then 1 else 0

def receivedMessage : Kind → String
  | .request => "Request header received"
  | .response => "Response header received"

def log (report : PassReport) : List LogEntry :=
  (if report.hasHeader then [⟨.debug, receivedMessage report.kind⟩] else []) ++
    match report.status, report.result, report.kind with
    | some (_, fate), _, _ => [fate.entry]
    | none, .failed _, .response =>
        [⟨.debug, "Response relay failed after forwarding began, no status sent"⟩]
    | none, _, _ => []

def metrics (report : PassReport) : Metrics :=
  match report.status with
  | some (status, _) => Metrics.none.addStatus status report.kind
  | none => .none

end PassReport

end HttpRelay
