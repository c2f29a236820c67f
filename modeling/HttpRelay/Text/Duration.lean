/-!
# Durations

A span of time is written in the largest unit in which it has a whole part, with as many
decimal places as it needs.
-/

namespace HttpRelay

/-- A span of time in whole nanoseconds. -/
structure Duration where
  nanoseconds : Nat
  deriving DecidableEq, Repr

namespace Duration

def ofMilliseconds (count : Nat) : Duration :=
  ⟨count * 1000000⟩

/-- Seconds and the nanoseconds past them. -/
def ofSeconds (seconds : Nat) (nanoseconds : Nat) : Duration :=
  ⟨seconds * 1000000000 + nanoseconds⟩

/-- The decimal places of a fraction with the given number of digits, with a point in front
and without the zeros at the end. -/
def fractionText (digits : Nat) (fraction : Nat) : String :=
  let places := (List.replicate digits '0' ++ (toString fraction).toList).reverse.take digits
  let shown := (places.dropWhile (· == '0')).reverse
  if shown.isEmpty then "" else String.ofList ('.' :: shown)

/-- A number of nanoseconds in the unit that is `10 ^ digits` nanoseconds long. -/
def textIn (unit : String) (digits : Nat) (nanoseconds : Nat) : String :=
  toString (nanoseconds / Nat.pow 10 digits) ++
    fractionText digits (nanoseconds % Nat.pow 10 digits) ++ unit

def text (duration : Duration) : String :=
  let count := duration.nanoseconds
  if 1000000000 ≤ count then textIn "s" 9 count
  else if 1000000 ≤ count then textIn "ms" 6 count
  else if 1000 ≤ count then textIn "µs" 3 count
  else textIn "ns" 0 count

end Duration

end HttpRelay
