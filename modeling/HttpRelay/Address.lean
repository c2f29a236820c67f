import HttpRelay.Text.Numeral
import HttpRelay.Text.Reader

/-!
# Addresses

The textual forms of network addresses. An address of the older kind is four decimal
numbers without leading zeros. One of the newer kind is eight groups of hexadecimal digits;
one run of zero groups may be left out, and the last two groups may be written as an address
of the older kind. An endpoint is an address with a port; the address goes into brackets if
its own text has colons, and can then name a numeric zone.
-/

namespace HttpRelay

/-- An address of four octets. -/
structure Ipv4 where
  first : UInt8
  second : UInt8
  third : UInt8
  fourth : UInt8
  deriving DecidableEq, Repr

/-- An address of eight groups of sixteen bits. -/
structure Ipv6 where
  groups : List UInt16
  length_groups : groups.length = 8
  deriving DecidableEq, Repr

/-- An address of either kind. -/
inductive Host where
  | v4 (address : Ipv4)
  | v6 (address : Ipv6)
  deriving DecidableEq, Repr

/-- An address, the zone in which it is meant, and a port. -/
structure Endpoint where
  host : Host
  zone : UInt32
  port : UInt16
  deriving DecidableEq, Repr

open Text

/-- A number of at most the given count of digits, below a bound. -/
def numberBelow (base : Nat) (most : Option Nat) (bound : Nat) : Reader Nat := do
  let digits ← Reader.span fun char => (digit? base char).isSome
  if most.any (· < digits.length) then failure
  else
    match numeral? base digits with
    | some value => if value < bound then return value else failure
    | none => failure

namespace Ipv4

/-- Whether a numeral begins with a zero that says nothing. -/
def hasLeadingZero : List Char → Bool
  | '0' :: next :: _ => (digit? 10 next).isSome
  | _ => false

def octet : Reader UInt8 := fun text =>
  if hasLeadingZero text then none
  else ((numberBelow 10 (some 3) 256).run text).map fun (value, rest) => (value.toUInt8, rest)

def reader : Reader Ipv4 := do
  let first ← octet
  Reader.expect '.'
  let second ← octet
  Reader.expect '.'
  let third ← octet
  Reader.expect '.'
  let fourth ← octet
  return ⟨first, second, third, fourth⟩

/-- The address as the last two groups of one of the newer kind. -/
def toGroups (address : Ipv4) : List UInt16 :=
  [address.first.toUInt16 * 256 + address.second.toUInt16,
    address.third.toUInt16 * 256 + address.fourth.toUInt16]

end Ipv4

namespace Ipv6

/-- The address with the given groups at its ends and zeros between them. -/
def ofEnds? (head tail : List UInt16) : Option Ipv6 :=
  if fits : head.length + tail.length ≤ 8 then
    some ⟨head ++ List.replicate (8 - head.length - tail.length) 0 ++ tail, by simp; omega⟩
  else none

def group : Reader UInt16 := do
  return (← numberBelow 16 (some 4) 65536).toUInt16

/-- A colon, except in front of the first group. -/
def separator (isFirst : Bool) : Reader Unit :=
  if isFirst then pure () else Reader.expect ':'

/-- As many groups as there are, up to a limit, and whether the last two were written as an
address of the older kind. -/
def groupsUpTo : (limit : Nat) → (isFirst : Bool) → Reader (List UInt16 × Bool)
  | 0, _ => return ([], false)
  | limit + 1, isFirst => do
      let embedded ←
        if limit = 0 then pure none else optional (separator isFirst *> Ipv4.reader)
      match embedded with
      | some address => return (address.toGroups, true)
      | none =>
          match ← optional (separator isFirst *> group) with
          | none => return ([], false)
          | some first =>
              let (others, isEmbedded) ← groupsUpTo limit false
              return (first :: others, isEmbedded)

def reader : Reader Ipv6 := do
  let (head, isEmbedded) ← groupsUpTo 8 true
  if head.length = 8 then liftM (ofEnds? head [])
  else if isEmbedded then failure
  else
    Reader.expect ':'
    Reader.expect ':'
    let (tail, _) ← groupsUpTo (7 - head.length) true
    liftM (ofEnds? head tail)

end Ipv6

namespace Host

def reader : Reader Host :=
  (v4 <$> Ipv4.reader) <|> (v6 <$> Ipv6.reader)

def ofText? (text : List Char) : Option Host :=
  reader.whole? text

end Host

namespace Endpoint

def portNumber : Reader UInt16 := do
  Reader.expect ':'
  return (← numberBelow 10 none 65536).toUInt16

def zoneNumber : Reader UInt32 := do
  Reader.expect '%'
  return (← numberBelow 10 none 4294967296).toUInt32

def readerV4 : Reader Endpoint := do
  let address ← Ipv4.reader
  return ⟨.v4 address, 0, ← portNumber⟩

def readerV6 : Reader Endpoint := do
  Reader.expect '['
  let address ← Ipv6.reader
  let zone ← optional zoneNumber
  Reader.expect ']'
  return ⟨.v6 address, zone.getD 0, ← portNumber⟩

def ofText? (text : List Char) : Option Endpoint :=
  (readerV4 <|> readerV6).whole? text

end Endpoint

end HttpRelay
