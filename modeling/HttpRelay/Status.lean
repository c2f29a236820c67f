import HttpRelay.Bytes

/-!
# Status responses

The responses that the relay sends in its own name, when an exchange fails before the other
side has answered. A response of the target is passed on untouched and never becomes one of
these.
-/

namespace HttpRelay

/-- The statuses that the relay can answer with. -/
inductive Status where
  | badRequest
  | requestTimeout
  | lengthRequired
  | requestHeaderFieldsTooLarge
  | badGateway
  | serviceUnavailable
  | gatewayTimeout
  deriving DecidableEq, Repr

namespace Status

def code : Status → Nat
  | badRequest => 400
  | requestTimeout => 408
  | lengthRequired => 411
  | requestHeaderFieldsTooLarge => 431
  | badGateway => 502
  | serviceUnavailable => 503
  | gatewayTimeout => 504

def reason : Status → String
  | badRequest => "Bad Request"
  | requestTimeout => "Request Timeout"
  | lengthRequired => "Length Required"
  | requestHeaderFieldsTooLarge => "Request Header Fields Too Large"
  | badGateway => "Bad Gateway"
  | serviceUnavailable => "Service Unavailable"
  | gatewayTimeout => "Gateway Timeout"

/-- Code and reason, as in a status line. -/
def text (status : Status) : String :=
  s!"{status.code} {status.reason}"

/-- The whole response: a status line and an empty header, without a body. -/
def response (status : Status) : Bytes :=
  Bytes.ofText "HTTP/1.1 " ++ Bytes.ofText status.text ++ Bytes.lineEnd ++ Bytes.lineEnd

end Status

end HttpRelay
