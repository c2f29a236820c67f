import HttpRelay.Session.Basic

/-!
# What peers see

A session as it looks from outside: what each peer received in a step, whether its side of
the connection is still open, and how many exchanges a handler completed that has returned.
-/

namespace HttpRelay

inductive PeerState where
  | connected
  | closed
  | gone
  deriving DecidableEq, Repr

/-- What a peer sees in a step. -/
structure PeerView where
  received : Bytes
  state : PeerState
  deriving DecidableEq, Repr

/-- What the peers of a connection see in a step, and the number of exchanges if the handler
has returned. -/
structure ConnectionView where
  peers : Sides PeerView
  exchanges : Option Nat
  deriving DecidableEq, Repr

namespace Connection

/-- Everything that a peer received so far. -/
def output (connection : Connection) (side : Side) : Bytes :=
  (connection.peers.get side).sink.output

def peerState (connection : Connection) (side : Side) : PeerState :=
  if (connection.peers.get side).isGone then .gone
  else if connection.hasEnded then .closed
  else .connected

/-- What a peer sees that had received a number of bytes before. -/
def peerView (connection : Connection) (received : Nat) (side : Side) : PeerView :=
  ⟨(connection.output side).drop received, connection.peerState side⟩

/-- What the peers see, given the connection as it was before, if it was there. -/
def view (before : Option Connection) (connection : Connection) : ConnectionView :=
  let received (side : Side) : Nat :=
    match before with
    | some before => (before.output side).length
    | none => 0
  ⟨⟨connection.peerView (received .client) .client,
      connection.peerView (received .target) .target⟩,
    if connection.hasEnded then some connection.exchanges else none⟩

end Connection

/-- What all peers see of a step between two sessions. -/
def Session.view (before session : Session) : List (String × ConnectionView) :=
  session.connections.map fun (name, connection) =>
    (name, connection.view (before.connections.lookup name))

end HttpRelay
