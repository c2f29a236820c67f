import HttpRelay.Toml.Moment
import HttpRelay.Toml.Number
import HttpRelay.Toml.Quoted
import HttpRelay.Toml.Table

/-!
# Keys and values of TOML

Values can be nested to a fixed depth only, and a dotted key can have a fixed number of
parts only.
-/

namespace HttpRelay.Toml

open Config (Tree)
open Text

/-- Neither the parts of a dotted key nor nested values may be this many. -/
def depthLimit : Nat := 80

def isBare (char : Char) : Bool :=
  char.isAlphanum || char == '_' || char == '-'

def keyPart : Reader String := fun text =>
  match text with
  | '"' :: _ | '\'' :: _ => Quoted.line.run text
  | _ => ((Reader.span1 isBare).run text).map fun (chars, rest) => (String.ofList chars, rest)

/-- A key: the path to the table that it goes into, and its last part. -/
def key : Reader (List String × String) := fun text =>
  match Reader.separated (blanks *> keyPart <* blanks) (Reader.expect '.') text with
  | some (parts, rest) =>
      match parts.getLast? with
      | some last =>
          if parts.length < depthLimit then some ((parts.dropLast, last), rest) else none
      | none => none
  | none => none

/-- The characters of values without quotes or brackets. -/
def isScalarChar (char : Char) : Bool :=
  char.isAlphanum || char == '_' || char == '-' || char == '+' || char == '.' || char == ':'

/-- The value of a text without quotes or brackets. -/
def scalar? (text : List Char) : Option Tree :=
  if text = ['t', 'r', 'u', 'e'] then some (.boolean true)
  else if text = ['f', 'a', 'l', 's', 'e'] then some (.boolean false)
  else if Moment.isMoment text then some .moment
  else
    match Number.integer? text with
    | some value => some (.integer value)
    | none => if Number.isReal text then some .fraction else none

/-- The text of a value without quotes or brackets. It ends at the first other character,
but a blank may stand between a date and a time. -/
def scalarText : Reader (List Char) := do
  let run ← Reader.span isScalarChar
  fun text =>
    match text with
    | ' ' :: next :: rest =>
        if Moment.isDate run && next.isDigit then
          some (run ++ ' ' :: (next :: rest).takeWhile isScalarChar,
            (next :: rest).dropWhile isScalarChar)
        else some (run, text)
    | _ => some (run, text)

def scalar : Reader Tree := do
  liftM (scalar? (← scalarText))

/-- A comma behind a value of an array that has another value behind it. -/
def arrayComma : Reader Unit := do
  gap
  Reader.expect ','
  gap
  fun text =>
    match text with
    | ']' :: _ => none
    | _ => some ((), text)

/-- An array behind its opening bracket. A comma may follow the last value. -/
def array (value : Reader Tree) : Reader Tree := do
  gap
  let items ← optional (Reader.separated value arrayComma)
  gap
  if items.isSome then
    let _ ← optional (Reader.expect ',')
    gap
  Reader.expect ']'
  return .array (items.getD [])

/-- A key with its value. -/
def assignment (value : Reader Tree) : Reader (List String × String × Tree) := do
  let (path, last) ← key
  Reader.expect '='
  blanks
  return (path, last, ← value)

/-- An inline table behind its opening brace. -/
def inlineTable (value : Reader Tree) : Reader Tree := do
  blanks
  let assignments ←
    optional (Reader.separated (assignment value) (blanks *> Reader.expect ','))
  blanks
  Reader.expect '\x7d'
  let entries ← liftM (Entries.ofAssignments? (assignments.getD []))
  return .table (Entries.toTrees entries)

/-- A value with the given depth of values nested in it. -/
def value : (depth : Nat) → Reader Tree
  | 0 => fun text =>
      match text with
      | '[' :: _ | '\x7b' :: _ => none
      | '"' :: _ | '\'' :: _ => (Tree.text <$> Quoted.reader).run text
      | _ => scalar.run text
  | depth + 1 => fun text =>
      match text with
      | '[' :: rest => (array (value depth)).run rest
      | '\x7b' :: rest => (inlineTable (value depth)).run rest
      | '"' :: _ | '\'' :: _ => (Tree.text <$> Quoted.reader).run text
      | _ => scalar.run text

end HttpRelay.Toml
