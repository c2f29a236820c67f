import HttpRelay.Message.HeaderError
import HttpRelay.Text.Parts
import HttpRelay.Text.Utf8

/-!
# Start lines

The first line of a message. It is checked for its shape only and is forwarded as it came.
-/

namespace HttpRelay

namespace StartLine

def versionMark : Bytes :=
  Bytes.ofChars ['H', 'T', 'T', 'P', '/']

def isVersion (part : Bytes) : Bool :=
  versionMark.isPrefixOf part

/-- A method, a target, and a version, with one space between neighbours. -/
def isRequestLine (line : Bytes) : Bool :=
  match Text.split (· == Bytes.space) line with
  | [method, target, version] =>
      !method.isEmpty && method.all Bytes.isToken && !target.isEmpty && isVersion version
  | _ => false

/-- A version, a space, a code of three digits, and then the end or a space and anything. -/
def isStatusLine (line : Bytes) : Bool :=
  match Text.split (· == Bytes.space) line with
  | version :: code :: _ => isVersion version && code.length == 3 && code.all Bytes.isDigit
  | _ => false

/-- Whether a line has the shape that its direction asks for. -/
def hasShape : Kind → Bytes → Bool
  | .request, line => isRequestLine line
  | .response, line => isStatusLine line

/-- What is wrong with a start line, if anything is. -/
def defect? (kind : Kind) (line : Bytes) : Option Malformed :=
  match Utf8.decode? line with
  | none => some (.startLineNotText kind)
  | some text => if hasShape kind line then none else some (.invalidStartLine kind text)

end StartLine

end HttpRelay
