import HttpRelay.Message.HeaderError
import HttpRelay.Text.Parts
import HttpRelay.Text.Utf8

/-!
# Header fields

One line of a header after the first: a name, a colon, and a value. Names are compared
without regard to case, so a field keeps the lower-case form of its name.
-/

namespace HttpRelay

/-- A header field with its name in lower case. -/
structure Field where
  name : Bytes
  value : Bytes
  deriving DecidableEq, Repr

namespace Field

def upgrade : Bytes :=
  Bytes.ofChars ['u', 'p', 'g', 'r', 'a', 'd', 'e']

def connection : Bytes :=
  Bytes.ofChars ['c', 'o', 'n', 'n', 'e', 'c', 't', 'i', 'o', 'n']

def transferEncoding : Bytes :=
  Bytes.ofChars
    ['t', 'r', 'a', 'n', 's', 'f', 'e', 'r', '-', 'e', 'n', 'c', 'o', 'd', 'i', 'n', 'g']

def contentLength : Bytes :=
  Bytes.ofChars ['c', 'o', 'n', 't', 'e', 'n', 't', '-', 'l', 'e', 'n', 'g', 't', 'h']

/-- The only value with which a `connection` field is forwarded. -/
def close : Bytes :=
  Bytes.ofChars ['c', 'l', 'o', 's', 'e']

/-- What stands between name and value when a field is written. -/
def separator : Bytes :=
  [Bytes.colon, Bytes.space]

/-- The characters of the value, if it is well-formed text. -/
def text? (field : Field) : Option (List Char) :=
  Utf8.decode? field.value

/-- Reads a field from a line with at least one byte. -/
def ofLine (line : Bytes) : Except Malformed Field :=
  if line.head?.any Bytes.isBlank then .error .foldedLine
  else
    let name := line.takeWhile (· != Bytes.colon)
    match line.dropWhile (· != Bytes.colon) with
    | [] => .error .fieldWithoutColon
    | _ :: value =>
        if name.isEmpty || !name.all Bytes.isToken then
          .error (.invalidFieldName (Utf8.decodeLossy name))
        else .ok ⟨name.map Bytes.lower, Text.trim Bytes.isBlank value⟩

def line (field : Field) : Bytes :=
  field.name ++ separator ++ field.value ++ Bytes.lineEnd

end Field

end HttpRelay
