import HttpRelay.Text.Numeral
import HttpRelay.Text.Parts

/-!
# Numbers of TOML

Integers, in any of four bases, and other numbers. An underscore may stand between two
digits. Integers have 64 bits. Of other numbers only their form matters, and that a positive
one is not beyond all that a binary64 can hold.
-/

namespace HttpRelay.Toml.Number

open Text

/-- The value of digits with single underscores between them. -/
def digits? (base : Nat) (text : List Char) : Option Nat :=
  if (split (· == '_') text).any List.isEmpty then none
  else numeral? base (text.filter (· != '_'))

/-- A decimal numeral without leading zeros. -/
def decimal? (text : List Char) : Option Nat :=
  match text with
  | '0' :: _ :: _ => none
  | _ => digits? 10 text

def sign : List Char → Bool × List Char
  | '-' :: rest => (true, rest)
  | '+' :: rest => (false, rest)
  | rest => (false, rest)

/-- An integer of any size. A base other than ten is given by a mark, and allows no sign. -/
def unbounded? (text : List Char) : Option Int :=
  match text with
  | '0' :: 'x' :: rest => (digits? 16 rest).map Int.ofNat
  | '0' :: 'o' :: rest => (digits? 8 rest).map Int.ofNat
  | '0' :: 'b' :: rest => (digits? 2 rest).map Int.ofNat
  | _ =>
      let (isNegative, rest) := sign text
      (decimal? rest).map fun value => if isNegative then -(value : Int) else value

def integer? (text : List Char) : Option Int :=
  (unbounded? text).filter fun value => -Int.pow 2 63 ≤ value ∧ value < Int.pow 2 63

/-- The least number that is rounded to infinity: half a unit past the greatest finite
one. -/
def roundsToInfinity : Nat := Nat.pow 2 1024 - Nat.pow 2 970

/-- Whether `digits * 10 ^ exponent` is rounded to infinity. A number far off the bound is
judged by its order of magnitude, so that no great power is ever computed. -/
def isInfinite (digits : Nat) (exponent : Int) : Bool :=
  let magnitude : Int := (toString digits).length + exponent
  if digits = 0 ∨ magnitude < 309 then false
  else if 309 < magnitude then true
  else if 0 ≤ exponent then roundsToInfinity ≤ digits * Nat.pow 10 exponent.toNat
  else roundsToInfinity * Nat.pow 10 (-exponent).toNat ≤ digits

/-- A number without an exponent: how many digits are behind its point, and the whole numeral
without the point. -/
def mantissa? (text : List Char) : Option (Nat × Nat) :=
  match split (· == '.') text with
  | [whole] => (decimal? whole).map (0, ·)
  | [whole, behind] => do
      let _ ← decimal? whole
      let _ ← digits? 10 behind
      let plain := (whole ++ behind).filter (· != '_')
      return ((behind.filter (· != '_')).length, ← numeral? 10 plain)
  | _ => none

def exponent? (text : List Char) : Option Int :=
  let (isNegative, rest) := sign text
  (digits? 10 rest).map fun value => if isNegative then -(value : Int) else value

/-- A number with a point or an exponent, without its sign: whether it is finite. -/
def isFinite? (text : List Char) : Option Bool :=
  match split (fun char => char == 'e' || char == 'E') text with
  | [whole] =>
      if whole.contains '.' then
        (mantissa? whole).map fun (places, digits) => !isInfinite digits (-places)
      else none
  | [whole, power] => do
      let (places, digits) ← mantissa? whole
      return !isInfinite digits ((← exponent? power) - places)
  | _ => none

/-- Whether a text is a number that is not written as an integer. -/
def isReal (text : List Char) : Bool :=
  let (isNegative, rest) := sign text
  rest == ['i', 'n', 'f'] || rest == ['n', 'a', 'n'] ||
    (isFinite? rest).any fun isFinite => isNegative || isFinite

end HttpRelay.Toml.Number
