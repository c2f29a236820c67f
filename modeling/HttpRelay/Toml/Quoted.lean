import HttpRelay.Text.Numeral
import HttpRelay.Toml.Layout

/-!
# Quoted text of TOML

Basic text in double quotes, in which a backslash begins an escape, and literal text in
single quotes, in which nothing does. Either can run over several lines between triple
quotes; up to two quotes may then stand right before the closing ones. In basic text over
several lines, a backslash at the end of a line takes away the line break and all space
after it.
-/

namespace HttpRelay.Toml.Quoted

open Text

/-- What a character after a backslash begins. -/
inductive Escape where
  | char (meant : Char)
  /-- A code point of the given number of hexadecimal digits. -/
  | code (digits : Nat)

def escape? : Char → Option Escape
  | 'b' => some (.char '\x08')
  | 't' => some (.char '\t')
  | 'n' => some (.char '\n')
  | 'f' => some (.char '\x0C')
  | 'r' => some (.char '\r')
  | '"' => some (.char '"')
  | '\\' => some (.char '\\')
  | 'u' => some (.code 4)
  | 'U' => some (.code 8)
  | _ => none

/-- The character of a code point, if it has one. -/
def scalar? (code : Nat) : Option Char :=
  if code.isValidChar then some (Char.ofNat code) else none

/-- Where in basic text a reader is. -/
inductive Mode where
  | plain
  | escaped
  /-- In a code point, of which the given number of digits is missing. -/
  | code (missing : Nat) (value : Nat)
  /-- Behind a backslash and blanks, in front of a line break. -/
  | beforeBreak
  /-- Behind a line break that was taken away. -/
  | folded
  deriving DecidableEq

/-- What is read with one more character in front. -/
def prepend (char : Char) (read : Option (List Char × List Char)) :
    Option (List Char × List Char) :=
  read.map fun (content, rest) => (char :: content, rest)

/-- The quotes that are part of a text over several lines, and what follows its closing
quotes, given what follows the first of them. -/
def closing? (quote : Char) : List Char → Option (List Char × List Char)
  | second :: third :: rest =>
      if second = quote ∧ third = quote then
        let extra := (rest.take 2).takeWhile (· == quote)
        some (extra, rest.drop extra.length)
      else none
  | _ => none

/-- Basic text behind its opening quotes. -/
def basic (isLong : Bool) : Mode → List Char → Option (List Char × List Char)
  | _, [] => none
  | .escaped, char :: rest =>
      match escape? char with
      | some (.char meant) => prepend meant (basic isLong .plain rest)
      | some (.code digits) => basic isLong (.code digits 0) rest
      | none =>
          if !isLong then none
          else if char = '\n' then basic isLong .folded rest
          else if isBlank char then basic isLong .beforeBreak rest
          else none
  | .code missing value, char :: rest =>
      match digit? 16 char with
      | none => none
      | some digit =>
          if missing ≤ 1 then
            match scalar? (value * 16 + digit) with
            | some meant => prepend meant (basic isLong .plain rest)
            | none => none
          else basic isLong (.code (missing - 1) (value * 16 + digit)) rest
  | .beforeBreak, char :: rest =>
      if char = '\n' then basic isLong .folded rest
      else if isBlank char then basic isLong .beforeBreak rest
      else none
  | mode, char :: rest =>
      if mode = .folded ∧ (char = '\n' ∨ isBlank char) then basic isLong .folded rest
      else if char = '"' then
        if isLong then
          match closing? '"' rest with
          | some closed => some closed
          | none => prepend '"' (basic isLong .plain rest)
        else some ([], rest)
      else if char = '\\' then basic isLong .escaped rest
      else if isInline char || (isLong && char == '\n') then
        prepend char (basic isLong .plain rest)
      else none

/-- Literal text behind its opening quotes. -/
def literal (isLong : Bool) : List Char → Option (List Char × List Char)
  | [] => none
  | char :: rest =>
      if char = '\'' then
        if isLong then
          match closing? '\'' rest with
          | some closed => some closed
          | none => prepend '\'' (literal isLong rest)
        else some ([], rest)
      else if isInline char || (isLong && char == '\n') then prepend char (literal isLong rest)
      else none

def line : Reader String := fun text =>
  let content :=
    match text with
    | '"' :: rest => basic false .plain rest
    | '\'' :: rest => literal false rest
    | _ => none
  content.map fun (chars, rest) => (String.ofList chars, rest)

/-- The text without a line break at its front, which the opening triple quotes swallow. -/
def withoutFirstBreak : List Char → List Char
  | '\n' :: rest => rest
  | rest => rest

/-- Quoted text over several lines. -/
def long : Reader String := fun text =>
  let content :=
    match text with
    | '"' :: '"' :: '"' :: rest => basic true .plain (withoutFirstBreak rest)
    | '\'' :: '\'' :: '\'' :: rest => literal true (withoutFirstBreak rest)
    | _ => none
  content.map fun (chars, rest) => (String.ofList chars, rest)

/-- Whether a text begins with the triple quotes of text over several lines. -/
def beginsLong (text : List Char) : Bool :=
  text.take 3 == ['"', '"', '"'] || text.take 3 == ['\'', '\'', '\'']

def reader : Reader String := fun text =>
  if beginsLong text then long.run text else line.run text

end HttpRelay.Toml.Quoted
