/-!
# Faults

What can go wrong with a socket or a file. A fault has a kind, on which decisions are based,
and a text, which is all that a reader sees of it.
-/

namespace HttpRelay

/-- The kinds of fault that are told apart. -/
inductive FaultKind where
  | brokenPipe
  | connectionReset
  | connectionAborted
  | notConnected
  | connectionRefused
  | timedOut
  | unexpectedEnd
  | invalidData
  | invalidInput
  | permissionDenied
  | interrupted
  | wouldBlock
  | writeZero
  | notFound
  | addressInUse
  | isDirectory
  | notDirectory
  | nameTooLong
  | other
  deriving DecidableEq, Repr

namespace FaultKind

/-- The text of a fault of this kind that has no text of its own. -/
def text : FaultKind → String
  | brokenPipe => "broken pipe"
  | connectionReset => "connection reset"
  | connectionAborted => "connection aborted"
  | notConnected => "not connected"
  | connectionRefused => "connection refused"
  | timedOut => "timed out"
  | unexpectedEnd => "unexpected end of file"
  | invalidData => "invalid data"
  | invalidInput => "invalid input parameter"
  | permissionDenied => "permission denied"
  | interrupted => "operation interrupted"
  | wouldBlock => "operation would block"
  | writeZero => "write zero"
  | notFound => "entity not found"
  | addressInUse => "address in use"
  | isDirectory => "is a directory"
  | notDirectory => "not a directory"
  | nameTooLong => "invalid filename"
  | other => "other error"

/-- The kinds that mean a closed socket: the peer hung up, or this side did. -/
def isSocketClosed : FaultKind → Bool
  | brokenPipe | connectionReset | connectionAborted | notConnected => true
  | _ => false

end FaultKind

structure Fault where
  kind : FaultKind
  text : String
  deriving DecidableEq, Repr

/-- A fault that says no more than its kind. -/
def Fault.ofKind (kind : FaultKind) : Fault :=
  ⟨kind, kind.text⟩

end HttpRelay
