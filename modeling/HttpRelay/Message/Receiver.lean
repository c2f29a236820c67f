import HttpRelay.Message.Header
import HttpRelay.Message.Limits
import HttpRelay.Message.Line
import HttpRelay.Message.StartLine

/-!
# Receiving a header

The scanner for one header: a start line, fields, and a blank line, each within its limit.
It stops right after the blank line, at the first byte of the body. A field counts against
the limit on their number before anything else about it is examined.
-/

namespace HttpRelay

/-- Which line of a header comes next. -/
inductive Receiver.Stage where
  | startLine
  /-- A field or the blank line, after a start line and a number of fields. -/
  | field (startLine : Bytes) (count : Nat) (fields : FieldsSoFar)
  deriving DecidableEq, Repr

/-- A header on its way in. -/
structure Receiver where
  kind : Kind
  limits : Limits
  stage : Receiver.Stage
  /-- The bytes of the line that is not finished yet. -/
  line : Array UInt8
  /-- How many bytes were taken. -/
  taken : Nat
  deriving DecidableEq, Repr

namespace Receiver

def start (kind : Kind) (limits : Limits) : Receiver :=
  ⟨kind, limits, .startLine, #[], 0⟩

def hasStarted (receiver : Receiver) : Bool :=
  receiver.taken != 0

/-- What the line that is being read is called in an error. -/
def lineName (receiver : Receiver) : Limited :=
  match receiver.stage with
  | .startLine => .startLine receiver.kind
  | .field .. => .field

def lineLimit (receiver : Receiver) : Nat :=
  match receiver.stage with
  | .startLine => receiver.limits.startLineSize
  | .field .. => receiver.limits.fieldSize

def lineTooLong (receiver : Receiver) : HeaderError :=
  .limitExceeded receiver.lineName receiver.lineLimit

/-- A field line that is not blank, after `count` others. -/
def addField (limits : Limits) (count : Nat) (fields : FieldsSoFar) (content : Bytes) :
    Except HeaderError FieldsSoFar :=
  if limits.fieldCount ≤ count then .error (.limitExceeded .fieldCount limits.fieldCount)
  else
    match Field.ofLine content with
    | .error defect => .error (.malformed defect)
    | .ok field =>
        match fields.add field with
        | .error defect => .error (.malformed defect)
        | .ok extended => .ok extended

/-- The receiver at the start of a line, one byte later. -/
def atLineStart (receiver : Receiver) (stage : Stage) : Receiver :=
  { receiver with stage := stage, line := #[], taken := receiver.taken + 1 }

/-- What a line means, once the byte that ends it is taken. -/
def endLine (receiver : Receiver) (content : Bytes) : Verdict Receiver Header HeaderError :=
  match receiver.stage with
  | .startLine =>
      match StartLine.defect? receiver.kind content with
      | some defect => .failed (.malformed defect)
      | none => .more (receiver.atLineStart (.field content 0 .none))
  | .field startLine count fields =>
      if content.isEmpty then
        match fields.claims.framing with
        | .error error => .failed error
        | .ok framing =>
            .done ⟨startLine, fields.forwarded.toList, receiver.taken + 1, framing⟩
      else
        match addField receiver.limits count fields content with
        | .error error => .failed error
        | .ok extended => .more (receiver.atLineStart (.field startLine (count + 1) extended))

def accept (receiver : Receiver) (byte : UInt8) : Verdict Receiver Header HeaderError :=
  match Line.accept receiver.lineLimit receiver.line byte with
  | .more line => .more { receiver with line := line, taken := receiver.taken + 1 }
  | .complete content => receiver.endLine content
  | .tooLong => .failed receiver.lineTooLong

/-- Why there is no header when the stream ends here. -/
def cutError (receiver : Receiver) : Cut → HeaderError
  | .finished => if receiver.hasStarted then .incomplete else .connectionClosed
  | .broken kind => .fault (.ofKind kind)

def scanner : Scanner Receiver Header HeaderError where
  accept := accept
  atSegmentEnd receiver :=
    if Line.isTooLong receiver.lineLimit receiver.line then some receiver.lineTooLong else none
  atWait _ := none
  atCut := cutError

end Receiver

end HttpRelay
