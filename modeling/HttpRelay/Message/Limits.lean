import HttpRelay.Message.Kind
import HttpRelay.Text.Duration

/-!
# Limits

What one direction of a connection allows a header to cost.
-/

namespace HttpRelay

/-- Bounds on a header, and on the time that it may take to arrive. -/
structure Limits where
  /-- The greatest length of the start line in bytes. -/
  startLineSize : Nat
  /-- The greatest number of fields. -/
  fieldCount : Nat
  /-- The greatest length of one field line in bytes. -/
  fieldSize : Nat
  /-- How long the whole header may take, in milliseconds. -/
  receiveTimeout : Nat
  deriving DecidableEq, Repr

/-- The bounds for both directions. -/
structure LimitsByKind where
  request : Limits
  response : Limits
  deriving DecidableEq, Repr

def LimitsByKind.of (limits : LimitsByKind) : Kind → Limits
  | .request => limits.request
  | .response => limits.response

end HttpRelay
