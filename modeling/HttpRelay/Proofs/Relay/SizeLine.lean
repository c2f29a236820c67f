import HttpRelay.Proofs.Message.LineGrammar
import HttpRelay.Relay.ChunkSize

/-!
# Chunk-size lines

Which lines give the size of a chunk, and which size. The line is a run of hexadecimal digits
between spaces and tabulators, and behind it nothing or a semicolon and anything. Letters
count in either case, and there may be any number of leading zeros. The reading of a line
decodes it first; it takes exactly these lines all the same, since everything in front of the
semicolon is ASCII.
-/

namespace HttpRelay

namespace Bytes

/-- The value of a hexadecimal digit. -/
def hexDigit? (byte : UInt8) : Option Nat :=
  if isDigit byte then some (byte.toNat - 0x30)
  else if 0x41 ≤ byte && byte ≤ 0x46 then some (byte.toNat - 0x37)
  else if 0x61 ≤ byte && byte ≤ 0x66 then some (byte.toNat - 0x57)
  else none

/-- The number that hexadecimal digits stand for, the most significant first. -/
def hexValue (digits : Bytes) : Nat :=
  digits.foldl (fun value byte => value * 16 + (hexDigit? byte).getD 0) 0

theorem isBlankChar_ofNat {byte : UInt8} (ascii : byte.toNat < 128) :
    ChunkSize.isBlankChar (Char.ofNat byte.toNat) = isBlank byte := by
  apply @induction_of_lt
    (fun byte => ChunkSize.isBlankChar (Char.ofNat byte.toNat) = isBlank byte) 128 _ byte ascii
  decide +kernel

theorem digit?_ofNat {byte : UInt8} (ascii : byte.toNat < 128) :
    Text.digit? 16 (Char.ofNat byte.toNat) = hexDigit? byte := by
  apply @induction_of_lt
    (fun byte => Text.digit? 16 (Char.ofNat byte.toNat) = hexDigit? byte) 128 _ byte ascii
  decide +kernel

theorem ascii_of_hexDigit {byte : UInt8} (digit : (hexDigit? byte).isSome) :
    byte.toNat < 128 := by
  simp only [hexDigit?, isDigit, Bool.and_eq_true, decide_eq_true_eq, UInt8.le_iff_toNat_le]
    at digit
  have nine : (0x39 : UInt8).toNat = 57 := rfl
  have upper : (0x46 : UInt8).toNat = 70 := rfl
  have lower : (0x66 : UInt8).toNat = 102 := rfl
  split at digit
  · omega
  · split at digit
    · omega
    · split at digit
      · omega
      · cases digit

end Bytes

namespace ChunkSize

variable {line digits left right extension bytes : Bytes} {size : Nat}

/-- A line that gives the size of a chunk. -/
def IsSizeLine (line : Bytes) (size : Nat) : Prop :=
  ∃ left digits right extension, line = left ++ digits ++ right ++ extension ∧
    (∀ byte ∈ left, Bytes.isBlank byte = true) ∧ (∀ byte ∈ right, Bytes.isBlank byte = true) ∧
    digits ≠ [] ∧ (∀ byte ∈ digits, (Bytes.hexDigit? byte).isSome) ∧
    (∀ byte ∈ extension.head?, byte = Bytes.semicolon) ∧
    Bytes.hexValue digits = size ∧ size < Text.wordBound

theorem mapM_digit? (ascii : ∀ byte ∈ digits, byte.toNat < 128) :
    digits.toChars.mapM (Text.digit? 16) =
      if digits.all fun byte => (Bytes.hexDigit? byte).isSome then
        some (digits.map fun byte => (Bytes.hexDigit? byte).getD 0)
      else none := by
  induction digits with
  | nil => rfl
  | cons byte digits ih =>
      have others := ih fun byte isIn => ascii byte (List.mem_cons_of_mem _ isIn)
      simp only [Bytes.toChars] at others
      simp only [Bytes.toChars, List.map_cons, List.mapM_cons,
        Bytes.digit?_ofNat (ascii byte List.mem_cons_self), others, List.all_cons]
      cases Bytes.hexDigit? byte <;>
        cases digits.all fun byte => (Bytes.hexDigit? byte).isSome <;> rfl

theorem numeral?_toChars_eq_some_iff (ascii : ∀ byte ∈ digits, byte.toNat < 128) :
    Text.numeral? 16 digits.toChars = some size ↔
      digits ≠ [] ∧ (∀ byte ∈ digits, (Bytes.hexDigit? byte).isSome) ∧
        Bytes.hexValue digits = size := by
  have empty : digits.toChars.isEmpty = true ↔ digits = [] := by
    simp [Bytes.toChars]
  have value : Text.ofDigits 16 (digits.map fun byte => (Bytes.hexDigit? byte).getD 0) =
      Bytes.hexValue digits := by
    simp only [Text.ofDigits, Bytes.hexValue, List.foldl_map]
  rw [Text.numeral?, mapM_digit? ascii]
  simp only [empty, List.all_eq_true]
  by_cases none : digits = []
  · simp [none]
  · rw [if_neg none]
    by_cases hex : ∀ byte ∈ digits, (Bytes.hexDigit? byte).isSome
    · rw [if_pos hex, Option.map_some, value, Option.some.injEq]
      constructor
      · intro same
        exact ⟨none, hex, same⟩
      · rintro ⟨_, _, same⟩
        exact same
    · rw [if_neg hex]
      constructor
      · intro impossible
        cases impossible
      · rintro ⟨_, allHex, _⟩
        exact absurd allHex hex

theorem semicolon_notMem_of_isBlank (blank : ∀ byte ∈ bytes, Bytes.isBlank byte = true) :
    Bytes.semicolon ∉ bytes := by
  intro isIn
  have isBlank := blank _ isIn
  revert isBlank
  decide

theorem semicolon_notMem_of_hexDigit (hex : ∀ byte ∈ bytes, (Bytes.hexDigit? byte).isSome) :
    Bytes.semicolon ∉ bytes := by
  intro isIn
  have isDigit := hex _ isIn
  revert isDigit
  decide

theorem isBlank_of_hexDigit {byte : UInt8} (hex : (Bytes.hexDigit? byte).isSome) :
    Bytes.isBlank byte = false := by
  revert hex
  cases blank : Bytes.isBlank byte with
  | false => exact fun _ => rfl
  | true =>
      simp only [Bytes.isBlank, Bool.or_eq_true, beq_iff_eq] at blank
      rcases blank with rfl | rfl <;> decide

/-- What stands in front of the extensions. -/
theorem sizePart_append (notIn : Bytes.semicolon ∉ bytes)
    (isExtension : ∀ byte ∈ extension.head?, byte = Bytes.semicolon) :
    sizePart (bytes ++ extension) = bytes := by
  have others : ∀ byte ∈ bytes, (byte != Bytes.semicolon) = true := by
    intro byte isIn
    apply bne_iff_ne.mpr
    rintro rfl
    exact notIn isIn
  rw [sizePart, List.takeWhile_append_of_pos others]
  cases extension with
  | nil => simp
  | cons byte extension => simp [isExtension byte rfl]

theorem append_of_sizePart (line : Bytes) :
    ∃ extension, line = sizePart line ++ extension ∧
      ∀ byte ∈ extension.head?, byte = Bytes.semicolon := by
  refine ⟨line.dropWhile (· != Bytes.semicolon), ?_, ?_⟩
  · exact (List.takeWhile_append_dropWhile).symm
  · intro byte isFirst
    have first := List.head?_dropWhile_not (· != Bytes.semicolon) line
    rw [Option.mem_def.mp isFirst] at first
    simpa using first

theorem isBlankChar_toNat {char : Char} (blank : isBlankChar char = true) :
    char.toNat < 128 := by
  simp only [isBlankChar, Bool.or_eq_true, beq_iff_eq] at blank
  rcases blank with rfl | rfl <;> decide

theorem digit?_toNat {char : Char} (digit : (Text.digit? 16 char).isSome) : char.toNat < 128 := by
  have bound : ∀ high : Char, char ≤ high → char.toNat ≤ high.toNat := by
    intro high le
    exact UInt32.le_iff_toNat_le.mp le
  rw [Text.digit?] at digit
  by_cases decimal : '0' ≤ char ∧ char ≤ '9'
  · exact Nat.lt_of_le_of_lt (bound _ decimal.2) (by decide)
  · by_cases small : 'a' ≤ char ∧ char ≤ 'f'
    · exact Nat.lt_of_le_of_lt (bound _ small.2) (by decide)
    · by_cases capital : 'A' ≤ char ∧ char ≤ 'F'
      · exact Nat.lt_of_le_of_lt (bound _ capital.2) (by decide)
      · simp only [decimal, small, capital, if_false, Nat.lt_irrefl, Option.isSome_none] at digit
        cases digit

theorem isSome_of_mapM {text : List Char} {values : List Nat}
    (read : text.mapM (Text.digit? 16) = some values) :
    ∀ char ∈ text, (Text.digit? 16 char).isSome := by
  induction text generalizing values with
  | nil => simp
  | cons char text ih =>
      simp only [List.mapM_cons] at read
      cases first : Text.digit? 16 char with
      | none => simp [first] at read
      | some value =>
          cases others : text.mapM (Text.digit? 16) with
          | none => simp [first, others] at read
          | some values =>
              intro other isIn
              rcases List.mem_cons.mp isIn with rfl | isIn
              · rw [first]
                rfl
              · exact ih others other isIn

/-- A numeral between blanks is ASCII. -/
theorem ascii_of_numeral? {text : List Char}
    (read : Text.numeral? 16 (Text.trim isBlankChar text) = some size) :
    ∀ char ∈ text, char.toNat < 128 := by
  rcases Text.trim_eq_iff.mp (rfl : Text.trim isBlankChar text = _) with
    ⟨⟨left, right, textEq, leftBlank, rightBlank⟩, _, _⟩
  have digits : ∀ char ∈ Text.trim isBlankChar text, (Text.digit? 16 char).isSome := by
    rw [Text.numeral?] at read
    split at read
    · cases read
    · rcases Option.map_eq_some_iff.mp read with ⟨values, mapped, _⟩
      exact isSome_of_mapM mapped
  intro char isIn
  rw [textEq, List.mem_append, List.mem_append] at isIn
  rcases isIn with (isIn | isIn) | isIn
  · exact isBlankChar_toNat (leftBlank char isIn)
  · exact digit?_toNat (digits char isIn)
  · exact isBlankChar_toNat (rightBlank char isIn)

/-- Blanks are taken off ASCII bytes as they are off the text. -/
theorem trim_toChars (ascii : ∀ byte ∈ bytes, byte.toNat < 128) :
    Text.trim isBlankChar bytes.toChars = Bytes.toChars (Text.trim Bytes.isBlank bytes) := by
  rcases Text.trim_eq_iff.mp (rfl : Text.trim Bytes.isBlank bytes = _) with
    ⟨⟨left, right, bytesEq, leftBlank, rightBlank⟩, first, last⟩
  generalize Text.trim Bytes.isBlank bytes = value at bytesEq first last
  subst bytesEq
  have chars : ∀ part : Bytes, (∀ byte ∈ part, Bytes.isBlank byte = true) →
      ∀ char ∈ part.toChars, isBlankChar char = true := by
    intro part blank char isIn
    rcases List.mem_map.mp isIn with ⟨byte, byteIn, rfl⟩
    rw [Bytes.isBlankChar_ofNat (Bytes.ascii_of_isBlank (blank byte byteIn))]
    exact blank byte byteIn
  have valueAscii : ∀ byte ∈ value, byte.toNat < 128 := by
    intro byte isIn
    apply ascii
    simp [isIn]
  apply Text.trim_eq_iff.mpr
  refine ⟨⟨Bytes.toChars left, Bytes.toChars right, ?_, chars left leftBlank,
    chars right rightBlank⟩, ?_, ?_⟩
  · simp only [Bytes.toChars, List.map_append]
  · intro char isFirst
    simp only [Bytes.toChars, List.head?_map, Option.mem_def, Option.map_eq_some_iff] at isFirst
    rcases isFirst with ⟨byte, isFirst, rfl⟩
    rw [Bytes.isBlankChar_ofNat (valueAscii byte (List.mem_of_mem_head? isFirst))]
    exact first byte isFirst
  · intro char isLast
    simp only [Bytes.toChars, List.getLast?_map, Option.mem_def, Option.map_eq_some_iff] at isLast
    rcases isLast with ⟨byte, isLast, rfl⟩
    rw [Bytes.isBlankChar_ofNat (valueAscii byte (List.mem_of_mem_getLast? isLast))]
    exact last byte isLast

theorem ascii_of_trim
    (hex : ∀ byte ∈ Text.trim Bytes.isBlank bytes, (Bytes.hexDigit? byte).isSome) :
    ∀ byte ∈ bytes, byte.toNat < 128 := by
  rcases Text.trim_eq_iff.mp (rfl : Text.trim Bytes.isBlank bytes = _) with
    ⟨⟨left, right, bytesEq, leftBlank, rightBlank⟩, _, _⟩
  intro byte isIn
  rw [bytesEq, List.mem_append, List.mem_append] at isIn
  rcases isIn with (isIn | isIn) | isIn
  · exact Bytes.ascii_of_isBlank (leftBlank byte isIn)
  · exact Bytes.ascii_of_hexDigit (hex byte isIn)
  · exact Bytes.ascii_of_isBlank (rightBlank byte isIn)

/-- The size of a line, read from its bytes and not from its text. -/
theorem ofLine_eq_ok_iff_trim :
    ofLine line = .ok size ↔
      Text.trim Bytes.isBlank (sizePart line) ≠ [] ∧
        (∀ byte ∈ Text.trim Bytes.isBlank (sizePart line), (Bytes.hexDigit? byte).isSome) ∧
        Bytes.hexValue (Text.trim Bytes.isBlank (sizePart line)) = size ∧
        size < Text.wordBound := by
  generalize part : sizePart line = bytes
  have within : ∀ byte ∈ Text.trim Bytes.isBlank bytes, byte ∈ bytes := by
    intro byte isIn
    rcases Text.trim_eq_iff.mp (rfl : Text.trim Bytes.isBlank bytes = _) with
      ⟨⟨left, right, bytesEq, _, _⟩, _, _⟩
    rw [bytesEq]
    simp [isIn]
  rw [ofLine, part]
  constructor
  · intro read
    cases decoded : Utf8.decode? bytes with
    | none => simp [decoded] at read
    | some text =>
        simp only [decoded] at read
        cases numeral : Text.numeral? 16 (Text.trim isBlankChar text) with
        | none => simp [numeral] at read
        | some value =>
            simp only [numeral] at read
            split at read
            · rename_i small
              cases read
              rcases Utf8.ascii_of_decode? decoded (ascii_of_numeral? numeral) with ⟨ascii, rfl⟩
              rw [trim_toChars ascii, numeral?_toChars_eq_some_iff
                fun byte isIn => ascii byte (within byte isIn)] at numeral
              exact ⟨numeral.1, numeral.2.1, numeral.2.2, small⟩
            · cases read
  · rintro ⟨nonempty, hex, value, small⟩
    have ascii := ascii_of_trim hex
    have numeral : Text.numeral? 16 (Text.trim isBlankChar bytes.toChars) = some size := by
      rw [trim_toChars ascii, numeral?_toChars_eq_some_iff
        fun byte isIn => ascii byte (within byte isIn)]
      exact ⟨nonempty, hex, value⟩
    simp only [Utf8.decode?_of_ascii ascii, numeral, if_pos small]

theorem ofLine_eq_ok_iff : ofLine line = .ok size ↔ IsSizeLine line size := by
  rw [ofLine_eq_ok_iff_trim]
  constructor
  · rintro ⟨nonempty, hex, value, small⟩
    rcases append_of_sizePart line with ⟨extension, lineEq, isExtension⟩
    rcases Text.trim_eq_iff.mp (rfl : Text.trim Bytes.isBlank (sizePart line) = _) with
      ⟨⟨left, right, partEq, leftBlank, rightBlank⟩, _, _⟩
    refine ⟨left, _, right, extension, ?_, leftBlank, rightBlank, nonempty, hex, isExtension, value,
      small⟩
    rw [← partEq]
    exact lineEq
  · rintro ⟨left, digits, right, extension, rfl, leftBlank, rightBlank, nonempty, hex, isExtension,
      value, small⟩
    have noSemicolon : Bytes.semicolon ∉ left ++ digits ++ right := by
      simp only [List.mem_append, not_or]
      exact ⟨⟨semicolon_notMem_of_isBlank leftBlank, semicolon_notMem_of_hexDigit hex⟩,
        semicolon_notMem_of_isBlank rightBlank⟩
    have trimmed : Text.trim Bytes.isBlank (left ++ digits ++ right) = digits := by
      apply Text.trim_eq_iff.mpr
      refine ⟨⟨left, right, rfl, leftBlank, rightBlank⟩, ?_, ?_⟩
      · intro byte isFirst
        exact isBlank_of_hexDigit (hex byte (List.mem_of_mem_head? isFirst))
      · intro byte isLast
        exact isBlank_of_hexDigit (hex byte (List.mem_of_mem_getLast? isLast))
    rw [sizePart_append noSemicolon isExtension, trimmed]
    exact ⟨nonempty, hex, value, small⟩

end ChunkSize

end HttpRelay
