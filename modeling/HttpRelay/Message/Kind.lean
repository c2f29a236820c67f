/-!
# The two kinds of message
-/

namespace HttpRelay

/-- A message goes from the client to the target, or back. -/
inductive Kind where
  | request
  | response
  deriving DecidableEq, Repr

namespace Kind

/-- The name of the direction. -/
def text : Kind → String
  | request => "request"
  | response => "response"

/-- What the first line of the message is called. -/
def startLineName : Kind → String
  | request => "request line"
  | response => "status line"

end Kind

end HttpRelay
