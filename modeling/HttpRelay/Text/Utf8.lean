import HttpRelay.Bytes

/-!
# UTF-8

Decoding of byte strings one byte at a time. The decoder yields a character for every
well-formed sequence and a gap for every maximal part that begins a sequence and does not
complete it, so the strict reading (no gaps) and the lenient one (a replacement character
for each gap) come from the same run.
-/

namespace HttpRelay.Utf8

/-- What the decoder has seen of a sequence of several bytes. -/
structure Sequence where
  /-- The bits read so far. -/
  bits : Nat
  /-- The least value that the next byte may have. -/
  lowest : UInt8
  /-- The greatest value that the next byte may have. -/
  highest : UInt8
  /-- How many bytes follow the next one. -/
  further : Nat

/-- The sequence that a byte begins, if it begins one of several bytes. The bounds on the
second byte rule out overlong forms, surrogates, and values past the last code point. -/
def begin? (lead : UInt8) : Option Sequence :=
  if lead < 0xC2 then none
  else if lead < 0xE0 then some ⟨lead.toNat - 0xC0, 0x80, 0xBF, 0⟩
  else if lead < 0xF0 then
    some ⟨lead.toNat - 0xE0, if lead == 0xE0 then 0xA0 else 0x80,
      if lead == 0xED then 0x9F else 0xBF, 1⟩
  else if lead < 0xF5 then
    some ⟨lead.toNat - 0xF0, if lead == 0xF0 then 0x90 else 0x80,
      if lead == 0xF4 then 0x8F else 0xBF, 2⟩
  else none

/-- The sequence with one more byte, and the character when that was the last. -/
def Sequence.extend (sequence : Sequence) (byte : UInt8) : Sequence ⊕ Char :=
  let bits := sequence.bits * 64 + (byte.toNat - 0x80)
  match sequence.further with
  | 0 => .inr (Char.ofNat bits)
  | further + 1 => .inl ⟨bits, 0x80, 0xBF, further⟩

/-- Characters and gaps, from the state the decoder is in. -/
def unitsFrom : Option Sequence → Bytes → List (Option Char)
  | none, [] => []
  | some _, [] => [none]
  | pending, byte :: rest =>
      let fresh : List (Option Char) :=
        if byte < 0x80 then some (Char.ofNat byte.toNat) :: unitsFrom none rest
        else match begin? byte with
          | some sequence => unitsFrom (some sequence) rest
          | none => none :: unitsFrom none rest
      match pending with
      | none => fresh
      | some sequence =>
          if sequence.lowest ≤ byte && byte ≤ sequence.highest then
            match sequence.extend byte with
            | .inl longer => unitsFrom (some longer) rest
            | .inr char => some char :: unitsFrom none rest
          else none :: fresh

/-- The characters and gaps of a byte string, in order. -/
def units (bytes : Bytes) : List (Option Char) :=
  unitsFrom none bytes

/-- The characters of a well-formed byte string. -/
def decode? (bytes : Bytes) : Option (List Char) :=
  (units bytes).mapM id

/-- The characters of any byte string, with U+FFFD for every gap. -/
def decodeLossy (bytes : Bytes) : List Char :=
  (units bytes).map (·.getD '\uFFFD')

end HttpRelay.Utf8
