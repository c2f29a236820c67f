import HttpRelay.Relay.Exchange

/-!
# Connections

One client connection with its connection to the target. Its handler passes on a request,
then a response, and so on, until a pass fails; then both sides are closed. At any time the
peers may send bytes, stop sending, or go away, and the handler does at once whatever it
can do with what is there.

A connection does not see any other. What it does to the world it says in notices.
-/

namespace HttpRelay

structure Peer where
  /-- What it sent and the relay has not read yet. -/
  inbox : Bytes
  /-- Whether it sends nothing any more. -/
  isClosed : Bool
  /-- Whether it went away, so that nothing can be sent to it. -/
  isGone : Bool
  sink : Sink
  deriving DecidableEq, Repr

namespace Peer

def fresh : Peer :=
  ⟨[], false, false, .unbounded⟩

/-- It sends bytes. Once it has closed, it cannot. -/
def send (bytes : Bytes) (peer : Peer) : Peer :=
  if peer.isClosed then peer else { peer with inbox := peer.inbox ++ bytes }

/-- It stops sending. What it sent stays readable. -/
def close (peer : Peer) : Peer :=
  { peer with isClosed := true }

/-- It goes away. What it sent stays readable. -/
def leave (peer : Peer) : Peer :=
  { peer with isClosed := true, isGone := true, sink := peer.sink.hangUp }

def withInbox (inbox : Bytes) (peer : Peer) : Peer :=
  { peer with inbox := inbox }

def withSink (sink : Sink) (peer : Peer) : Peer :=
  { peer with sink := sink }

end Peer

/-- What a handler is doing. -/
inductive Connection.Stage where
  /-- It passes a message on, whose header has to be complete at the deadline. -/
  | passing (kind : Kind) (pass : Pass) (deadline : Nat)
  /-- It has returned. -/
  | ended
  deriving DecidableEq, Repr

structure Connection where
  peers : Sides Peer
  stage : Connection.Stage
  exchanges : Nat
  deriving DecidableEq, Repr

/-- What a handler lets the world know. -/
inductive Notice where
  /-- The first byte of a request came. -/
  | busy
  /-- A response was passed on whole. -/
  | idle
  | exchanged
  | synthesized (status : Status) (kind : Kind)
  | failed (kind : Kind) (failure : Failure)
  | released
  deriving DecidableEq, Repr

namespace Connection

/-- The stage at the start of a pass. -/
def beginPass (limits : LimitsByKind) (now : Nat) (kind : Kind) : Stage :=
  .passing kind (.start kind (limits.of kind)) (now + (limits.of kind).receiveTimeout)

/-- A connection that was just made, with a handler that waits for a request. -/
def start (limits : LimitsByKind) (now : Nat) : Connection :=
  ⟨⟨.fresh, .fresh⟩, beginPass limits now .request, 0⟩

def hasEnded (connection : Connection) : Bool :=
  connection.stage == .ended

/-- The connection after its handler read from the origin of a message down to the given
rest and wrote to the destination. -/
def progressed (connection : Connection) (kind : Kind) (rest : Bytes) (sink : Sink) :
    Connection :=
  { connection with
    peers := (connection.peers.modify kind.origin (·.withInbox rest)).modify kind.destination
      (·.withSink sink) }

/-- The end of the handler, by a pass that failed after the destination got what the sink
holds. -/
def fail (connection : Connection) (kind : Kind) (abandoned : Pass.Abandoned) :
    Connection × List Notice :=
  let peers := connection.peers.modify kind.destination (·.withSink abandoned.sink)
  let ending : List Notice := [.failed kind abandoned.failure, .released]
  match abandoned.status kind with
  | none => ({ connection with peers := peers, stage := .ended }, ending)
  | some status =>
      let told := peers.modify .client fun client =>
        client.withSink (sendStatus status client.sink).1
      ({ connection with peers := told, stage := .ended }, .synthesized status kind :: ending)

/-- What a handler does that has read everything there is: it gives up if nothing can come
any more, or if its time is up, and else it waits. -/
def await (limits : LimitsByKind) (now : Nat) (connection : Connection) (kind : Kind)
    (flow : Flow Pass) (deadline : Nat) : Connection × List Notice :=
  if (connection.peers.get kind.origin).isClosed then
    connection.fail kind (Pass.scanner.atCut flow .finished)
  else
    match if deadline ≤ now then Pass.expired (limits.of kind) flow else none with
    | some abandoned => connection.fail kind abandoned
    | none => ({ connection with stage := .passing kind flow.progress deadline }, [])

/-- What a handler does that has passed a message on: after a request it turns to the
response, and after a response the exchange is complete. -/
def turn (limits : LimitsByKind) (now : Nat) (connection : Connection) :
    Kind → Connection × List Notice
  | .request => ({ connection with stage := beginPass limits now .response }, [])
  | .response =>
      ({ connection with
          stage := beginPass limits now .request
          exchanges := connection.exchanges + 1 }, [.idle, .exchanged])

/-- The notice with which a request begins. -/
def beginning (kind : Kind) (pass : Pass) (inbox : Bytes) : List Notice :=
  match kind with
  | .request => if pass.hasStarted || inbox.isEmpty then [] else [.busy]
  | .response => []

/-- How many bytes are there to be read. -/
def unread (connection : Connection) : Nat :=
  connection.peers.client.inbox.length + connection.peers.target.inbox.length

/-- How a message in flight continues: its progress, and the sink it is written to. -/
def flow (connection : Connection) (kind : Kind) (pass : Pass) : Flow Pass :=
  ⟨pass, (connection.peers.get kind.destination).sink⟩

theorem unread_turn (limits : LimitsByKind) (now : Nat) (connection : Connection) (kind : Kind) :
    (connection.turn limits now kind).1.unread = connection.unread := by
  cases kind <;> rfl

theorem unread_progressed_lt (connection : Connection) (kind : Kind) {rest : Bytes} (sink : Sink)
    (shorter : rest.length < (connection.peers.get kind.origin).inbox.length) :
    (connection.progressed kind rest sink).unread < connection.unread := by
  cases kind <;>
    simp only [progressed, unread, Kind.origin, Kind.destination, Sides.get, Sides.modify,
      Peer.withInbox, Peer.withSink] at shorter ⊢ <;>
    omega

/-- Lets the handler do what it can do at the given time. -/
def settle (limits : LimitsByKind) (now : Nat) (connection : Connection) :
    Connection × List Notice :=
  match connection.stage with
  | .ended => (connection, [])
  | .passing kind pass deadline =>
      let inbox := (connection.peers.get kind.origin).inbox
      let (settled, notices) :=
        match _ : Pass.scanner.feed (connection.flow kind pass) inbox with
        | .more flow =>
            (connection.progressed kind [] flow.sink).await limits now kind flow deadline
        | .failed abandoned rest =>
            (connection.progressed kind rest abandoned.sink).fail kind abandoned
        | .done delivered rest =>
            let turned := (connection.progressed kind rest delivered.sink).turn limits now kind
            let (settled, notices) := turned.1.settle limits now
            (settled, turned.2 ++ notices)
      (settled, beginning kind pass inbox ++ notices)
termination_by connection.unread
decreasing_by
  rw [unread_turn]
  exact unread_progressed_lt connection kind delivered.sink (Scanner.length_lt_of_feed_done ‹_›)

/-- Shutdown: a handler gives up whatever it does. -/
def interrupt (connection : Connection) : Connection × List Notice :=
  match connection.stage with
  | .ended => (connection, [])
  | .passing kind pass _ =>
      connection.fail kind (Pass.abandon (connection.flow kind pass) .interrupted)

def modifyPeer (connection : Connection) (side : Side) (change : Peer → Peer) : Connection :=
  { connection with peers := connection.peers.modify side change }

end Connection

end HttpRelay
