import HttpRelay.Message.HeaderError
import HttpRelay.Relay.BodyError
import HttpRelay.Status
import HttpRelay.Text.Duration

/-!
# Failures of a pass

Why a message did not get from one side to the other, and what the client gets to see of
it. The tables that map a failure to a status differ by direction: a failed request is the
client's doing unless it ran out of time, a failed response the target's.
-/

namespace HttpRelay

/-- Why a request or a response was not passed on. -/
inductive Failure where
  | header (error : HeaderError)
  /-- The header was not complete when its time was up. -/
  | timeout (allowed : Duration)
  /-- Shutdown came while the message was on its way. -/
  | interrupted
  /-- Header or body could not be passed on. -/
  | relay (error : BodyError)
  deriving DecidableEq, Repr

namespace Failure

def message : Failure → String
  | header error => error.message
  | timeout allowed => "header not received within " ++ allowed.text
  | interrupted => "exchange interrupted"
  | relay error => "relay failed: " ++ error.toFault.text

/-- The status for a failed request. A client that closed before it sent anything gets
none. -/
def requestStatus : Failure → Option Status
  | header .connectionClosed => none
  | header (.unsupportedTransferEncoding _) => some .lengthRequired
  | header (.limitExceeded _ _) => some .requestHeaderFieldsTooLarge
  | interrupted => some .serviceUnavailable
  | timeout _ => some .requestTimeout
  | header _ | relay _ => some .badRequest

/-- The status for a response that failed before any of it was forwarded. -/
def responseStatus : Failure → Status
  | interrupted => .serviceUnavailable
  | timeout _ => .gatewayTimeout
  | header _ | relay _ => .badGateway

/-- Failures that are a normal end of a session: shutdown, or a socket that was closed. -/
def isDisconnect : Failure → Bool
  | interrupted | header .connectionClosed => true
  | header (.fault fault) => fault.kind.isSocketClosed
  | relay error => error.toFault.kind.isSocketClosed
  | header _ | timeout _ => false

end Failure

end HttpRelay
