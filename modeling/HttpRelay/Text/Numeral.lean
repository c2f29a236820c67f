/-!
# Numerals

Reading a number from its digits, in any base up to sixteen. A numeral has at least one
digit and nothing but digits; leading zeros are allowed, and the value is unbounded.
-/

namespace HttpRelay.Text

/-- The value of a digit in the given base. Letters count in either case. -/
def digit? (base : Nat) (char : Char) : Option Nat :=
  let value :=
    if '0' ≤ char ∧ char ≤ '9' then char.toNat - '0'.toNat
    else if 'a' ≤ char ∧ char ≤ 'f' then char.toNat - 'a'.toNat + 10
    else if 'A' ≤ char ∧ char ≤ 'F' then char.toNat - 'A'.toNat + 10
    else base
  if value < base then some value else none

/-- The number that digits stand for, most significant first. -/
def ofDigits (base : Nat) (digits : List Nat) : Nat :=
  digits.foldl (fun value digit => value * base + digit) 0

/-- The number that a numeral stands for. -/
def numeral? (base : Nat) (text : List Char) : Option Nat :=
  if text.isEmpty then none else (text.mapM (digit? base)).map (ofDigits base)

/-- The least number that does not fit into 64 bits. -/
def wordBound : Nat := Nat.pow 2 64

end HttpRelay.Text
