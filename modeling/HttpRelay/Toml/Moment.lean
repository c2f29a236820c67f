import HttpRelay.Text.Numeral
import HttpRelay.Text.Reader

/-!
# Dates and times of TOML

A date, a time of day, or both, the latter with or without an offset. Only the form and the
ranges of the parts matter here: what moment is meant is never asked.
-/

namespace HttpRelay.Toml.Moment

open Text

/-- A number of exactly the given count of decimal digits, within bounds. -/
def part (count lowest highest : Nat) : Reader Nat := fun text =>
  match numeral? 10 (text.take count) with
  | some value =>
      if count ≤ text.length ∧ lowest ≤ value ∧ value ≤ highest then some (value, text.drop count)
      else none
  | none => none

def isLeapYear (year : Nat) : Bool :=
  year % 4 == 0 && (year % 100 != 0 || year % 400 == 0)

def daysIn (year month : Nat) : Nat :=
  if month = 2 then if isLeapYear year then 29 else 28
  else if month = 4 ∨ month = 6 ∨ month = 9 ∨ month = 11 then 30
  else 31

def date : Reader Unit := do
  let year ← part 4 0 9999
  Reader.expect '-'
  let month ← part 2 1 12
  Reader.expect '-'
  let _ ← part 2 1 (daysIn year month)

def secondFraction : Reader Unit := do
  Reader.expect '.'
  let _ ← Reader.span1 Char.isDigit

def time : Reader Unit := do
  let _ ← part 2 0 23
  Reader.expect ':'
  let _ ← part 2 0 59
  Reader.expect ':'
  let _ ← part 2 0 60
  fun text =>
    match text with
    | '.' :: _ => secondFraction.run text
    | _ => some ((), text)

def offset : Reader Unit := do
  let _ ← Reader.expect '+' <|> Reader.expect '-'
  let _ ← part 2 0 23
  Reader.expect ':'
  let _ ← part 2 0 59

def zone : Reader Unit :=
  Reader.expect 'Z' <|> Reader.expect 'z' <|> offset

/-- The mark between a date and a time. -/
def mark : Reader Unit :=
  Reader.expect 'T' <|> Reader.expect 't' <|> Reader.expect ' '

def isDate (text : List Char) : Bool :=
  (date.whole? text).isSome

/-- Whether a text is a date, a time, or both. -/
def isMoment (text : List Char) : Bool :=
  isDate text || (time.whole? text).isSome ||
    ((date *> mark *> time).whole? text).isSome ||
    ((date *> mark *> time *> zone).whole? text).isSome

end HttpRelay.Toml.Moment
