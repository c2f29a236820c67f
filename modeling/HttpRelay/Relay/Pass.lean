import HttpRelay.Message.Receiver
import HttpRelay.Relay.Body
import HttpRelay.Relay.Failure

/-!
# Passes

A pass takes one message from a source to a sink: it receives the header, writes it
as it is forwarded, and relays the body. Nothing is written before the header is accepted.
-/

namespace HttpRelay

/-- How far a message has come. -/
inductive Pass where
  | receiving (receiver : Receiver)
  | relaying (header : Header) (body : Body)
  deriving DecidableEq, Repr

/-- A message that was passed on whole. -/
structure Pass.Delivered where
  header : Header
  count : Nat
  sink : Sink
  deriving DecidableEq, Repr

/-- A message that was not passed on whole. -/
structure Pass.Abandoned where
  failure : Failure
  hadStarted : Bool
  accepted : Option Header
  sink : Sink
  deriving DecidableEq, Repr

/-- The status response, if any, that tells the client of the failure. A response that has
begun to go out is never followed by one. -/
def Pass.Abandoned.status (abandoned : Abandoned) : Kind → Option Status
  | .request => abandoned.failure.requestStatus
  | .response =>
      if abandoned.accepted.isSome then none else some abandoned.failure.responseStatus

namespace Pass

def start (kind : Kind) (limits : Limits) : Pass :=
  .receiving (.start kind limits)

def hasStarted : Pass → Bool
  | receiving receiver => receiver.hasStarted
  | relaying .. => true

def header? : Pass → Option Header
  | receiving _ => none
  | relaying header _ => some header

/-- The end of a pass that failed at the given point. -/
def abandon (flow : Flow Pass) (failure : Failure) : Abandoned :=
  ⟨failure, flow.progress.hasStarted, flow.progress.header?, flow.sink⟩

abbrev Step := Verdict (Flow Pass) Delivered Abandoned

/-- A relay error under an accepted header. -/
def ofBroken (header : Header) (broken : Body.Broken) : Abandoned :=
  ⟨.relay broken.error, true, some header, broken.sink⟩

/-- A header error. Any but the first can only come up when the message has started. -/
def ofHeaderError (hadStarted : Bool) (sink : Sink) (error : HeaderError) : Abandoned :=
  ⟨.header error, hadStarted, none, sink⟩

/-- A step of the relay of a body, as a step of the pass. -/
def ofBodyStep (header : Header) : Body.Step → Step
  | .more ⟨body, sink⟩ => .more ⟨.relaying header body, sink⟩
  | .done relayed => .done ⟨header, relayed.count, relayed.sink⟩
  | .failed broken => .failed (ofBroken header broken)
  | .refused broken => .refused (ofBroken header broken)

/-- Writes an accepted header and begins with the body. -/
def forward (header : Header) (sink : Sink) : Step :=
  match sink.write header.encode with
  | (sink, some fault) => .failed (ofBroken header ⟨.fault fault, sink⟩)
  | (sink, none) => ofBodyStep header (Body.start header.framing sink)

def accept (flow : Flow Pass) (byte : UInt8) : Step :=
  match flow with
  | ⟨.receiving receiver, sink⟩ =>
      match receiver.accept byte with
      | .more receiver => .more ⟨.receiving receiver, sink⟩
      | .done header => forward header sink
      | .failed error => .failed (ofHeaderError true sink error)
      | .refused error => .refused (ofHeaderError receiver.hasStarted sink error)
  | ⟨.relaying header body, sink⟩ => ofBodyStep header (Body.accept ⟨body, sink⟩ byte)

def scanner : Scanner (Flow Pass) Delivered Abandoned where
  accept := accept
  atSegmentEnd flow :=
    match flow.progress with
    | .receiving receiver =>
        (Receiver.scanner.atSegmentEnd receiver).map (ofHeaderError receiver.hasStarted flow.sink)
    | .relaying header body =>
        (Body.scanner.atSegmentEnd ⟨body, flow.sink⟩).map (ofBroken header)
  atWait flow :=
    match flow.progress with
    | .receiving receiver =>
        (Receiver.scanner.atWait receiver).map (ofHeaderError receiver.hasStarted flow.sink)
    | .relaying header body => (Body.scanner.atWait ⟨body, flow.sink⟩).map (ofBroken header)
  atCut flow cut :=
    match flow.progress with
    | .receiving receiver =>
        ofHeaderError receiver.hasStarted flow.sink (Receiver.scanner.atCut receiver cut)
    | .relaying header body => ofBroken header (Body.scanner.atCut ⟨body, flow.sink⟩ cut)

end Pass

end HttpRelay
