import HttpRelay.Text.Shown

/-!
# Quoted text

The form in which a message quotes text that came over a connection: between double quotes,
with an escape for every character that would not be shown as itself.
-/

namespace HttpRelay.Text

/-- The hexadecimal digits of a number, in lower case and without leading zeros. -/
def hexDigits (number : Nat) : List Char :=
  Nat.toDigits 16 number

/-- One character of a quoted text. -/
def quoteChar (char : Char) : List Char :=
  if char == '\x00' then ['\\', '0']
  else if char == '\t' then ['\\', 't']
  else if char == '\r' then ['\\', 'r']
  else if char == '\n' then ['\\', 'n']
  else if char == '"' then ['\\', '"']
  else if char == '\\' then ['\\', '\\']
  else if isShown char then [char]
  else ['\\', 'u', '\x7b'] ++ hexDigits char.toNat ++ ['\x7d']

/-- A text between double quotes, with escapes. -/
def quote (text : List Char) : String :=
  String.ofList ('"' :: text.flatMap quoteChar ++ ['"'])

end HttpRelay.Text
