import HttpRelay.Bytes
import HttpRelay.Text.Numeral
import HttpRelay.Text.Parts
import HttpRelay.Text.Utf8

/-!
# Chunk sizes

The line in front of a chunk: its size in hexadecimal, and after a semicolon extensions of
which nothing is asked.
-/

namespace HttpRelay

namespace ChunkSize

/-- What is wrong with a chunk-size line. -/
inductive Error where
  | notText
  | invalid
  | outOfRange
  deriving DecidableEq, Repr

/-- The part of the line in front of the extensions. -/
def sizePart (line : Bytes) : Bytes :=
  line.takeWhile (· != Bytes.semicolon)

/-- The blanks that may stand around a size. -/
def isBlankChar (char : Char) : Bool :=
  char == ' ' || char == '\t'

/-- The size that a line gives. -/
def ofLine (line : Bytes) : Except Error Nat :=
  match Utf8.decode? (sizePart line) with
  | none => .error .notText
  | some text =>
      match Text.numeral? 16 (Text.trim isBlankChar text) with
      | none => .error .invalid
      | some size => if size < Text.wordBound then .ok size else .error .outOfRange

end ChunkSize

end HttpRelay
