import HttpRelay.Text.Reader

/-!
# Layout of TOML

Blanks, comments, and line breaks. A line break is a line feed here: where a document has a
carriage return in front of one, the carriage return is dropped before anything is read, and
any other carriage return is a control character like the rest of them.
-/

namespace HttpRelay.Toml

open Text

/-- The document with plain line breaks. -/
def withPlainBreaks : List Char → List Char
  | '\r' :: '\n' :: rest => '\n' :: withPlainBreaks rest
  | char :: rest => char :: withPlainBreaks rest
  | [] => []

def isBlank (char : Char) : Bool :=
  char == ' ' || char == '\t'

/-- The characters that may stand in a comment, and unescaped in quoted text: all but the
control characters, of which only the tabulator is allowed. -/
def isInline (char : Char) : Bool :=
  char == '\t' || (' ' ≤ char && char != '\x7F')

def blanks : Reader Unit := do
  let _ ← Reader.span isBlank

def comment : Reader Unit := fun text =>
  match text with
  | '#' :: rest => some ((), rest.dropWhile isInline)
  | _ => some ((), text)

/-- The rest of a line on which nothing more is said, up to the line break or the end of the
document. -/
def lineRest : Reader Unit := do
  blanks
  comment
  fun text =>
    match text with
    | [] => some ((), [])
    | '\n' :: rest => some ((), rest)
    | _ => none

/-- Blanks, line breaks and comments, up to anything else. -/
def skipGap : (inComment : Bool) → List Char → Option (List Char)
  | _, [] => some []
  | _, '\n' :: rest => skipGap false rest
  | true, char :: rest => if isInline char then skipGap true rest else none
  | false, '#' :: rest => skipGap true rest
  | false, char :: rest => if isBlank char then skipGap false rest else some (char :: rest)

/-- The space between the values of an array. -/
def gap : Reader Unit := fun text =>
  (skipGap false text).map ((), ·)

end HttpRelay.Toml
