/-!
# Readers

A reader takes a value from the front of a text and leaves the rest. One that fails has
taken nothing, so an alternative can be tried from the same place.
-/

namespace HttpRelay.Text

/-- Reads a value from the front of a text. -/
abbrev Reader (Value : Type) := StateT (List Char) Option Value

namespace Reader

variable {Value : Type}

def expect (wanted : Char) : Reader Unit := fun text =>
  match text with
  | char :: rest => if char = wanted then some ((), rest) else none
  | [] => none

/-- Reads the longest run of characters of a class, which may be empty. -/
def span (isMember : Char → Bool) : Reader (List Char) := fun text =>
  some (text.takeWhile isMember, text.dropWhile isMember)

/-- Reads the longest run of characters of a class, which may not be empty. -/
def span1 (isMember : Char → Bool) : Reader (List Char) := do
  let run ← span isMember
  if run.isEmpty then failure else return run

/-- Reads one or more values with a separator between neighbours. A value and a separator
that take nothing together are not read again. -/
def separated (item : Reader Value) (separator : Reader Unit) (text : List Char) :
    Option (List Value × List Char) :=
  match item.run text with
  | none => none
  | some (value, rest) =>
      match separator.run rest with
      | none => some ([value], rest)
      | some (_, further) =>
          if further.length < text.length then
            (separated item separator further).map fun (values, rest) => (value :: values, rest)
          else none
termination_by text.length

/-- The value of a text that a reader takes whole. -/
def whole? (reader : Reader Value) (text : List Char) : Option Value :=
  match reader.run text with
  | some (value, []) => some value
  | _ => none

end Reader

end HttpRelay.Text
