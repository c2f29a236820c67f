import HttpRelay.Text.Utf8

/-!
# UTF-8

The strict reading of a byte string finds the characters whose encodings, one after another,
are the byte string, and finds none if there are no such characters (`decode?_eq_some_iff`).
Between the two stands the table of the well-formed sequences: the decoder takes exactly
these, and they are exactly the encodings of single characters.
-/

namespace HttpRelay.Utf8

/-- The well-formed sequences, each with the code point that it stands for. -/
inductive IsSequence : Bytes → Nat → Prop where
  | one {first : UInt8} (low : first.toNat < 0x80) : IsSequence [first] first.toNat
  | two {first second : UInt8} (low : 0xC2 ≤ first.toNat) (high : first.toNat < 0xE0)
      (secondLow : 0x80 ≤ second.toNat) (secondHigh : second.toNat ≤ 0xBF) :
      IsSequence [first, second] ((first.toNat - 0xC0) * 64 + (second.toNat - 0x80))
  | three {first second third : UInt8} (low : 0xE0 ≤ first.toNat) (high : first.toNat < 0xF0)
      (secondLow : (if first.toNat = 0xE0 then 0xA0 else 0x80) ≤ second.toNat)
      (secondHigh : second.toNat ≤ if first.toNat = 0xED then 0x9F else 0xBF)
      (thirdLow : 0x80 ≤ third.toNat) (thirdHigh : third.toNat ≤ 0xBF) :
      IsSequence [first, second, third]
        (((first.toNat - 0xE0) * 64 + (second.toNat - 0x80)) * 64 + (third.toNat - 0x80))
  | four {first second third fourth : UInt8} (low : 0xF0 ≤ first.toNat)
      (high : first.toNat < 0xF5)
      (secondLow : (if first.toNat = 0xF0 then 0x90 else 0x80) ≤ second.toNat)
      (secondHigh : second.toNat ≤ if first.toNat = 0xF4 then 0x8F else 0xBF)
      (thirdLow : 0x80 ≤ third.toNat) (thirdHigh : third.toNat ≤ 0xBF)
      (fourthLow : 0x80 ≤ fourth.toNat) (fourthHigh : fourth.toNat ≤ 0xBF) :
      IsSequence [first, second, third, fourth]
        ((((first.toNat - 0xF0) * 64 + (second.toNat - 0x80)) * 64 + (third.toNat - 0x80)) * 64 +
          (fourth.toNat - 0x80))

variable {bytes rest : Bytes} {text : List Char} {char : Char} {value : Nat}

theorem toNat_ofNat (valid : value.isValidChar) : (Char.ofNat value).val.toNat = value := by
  rw [Char.ofNat, dif_pos valid]
  rfl

theorem isSequence_encode (char : Char) :
    IsSequence (String.utf8EncodeChar char) char.val.toNat := by
  have valid := char.valid
  simp only [UInt32.isValidChar, Nat.isValidChar] at valid
  simp only [String.utf8EncodeChar]
  generalize char.val.toNat = value at valid
  have toNat : ∀ {value : Nat}, value < 256 → (UInt8.ofNat value).toNat = value :=
    fun small => UInt8.toNat_ofNat_of_lt small
  have last := @toNat (value % 0x40 + 0x80) (by omega)
  have third := @toNat (value / 64 % 0x40 + 0x80) (by omega)
  have second := @toNat (value / 4096 % 0x40 + 0x80) (by omega)
  by_cases one : value ≤ 0x7F
  · have first := @toNat value (by omega)
    have sequence := @IsSequence.one (UInt8.ofNat value) (by omega)
    simp only [first] at sequence
    simpa only [one, if_true] using sequence
  by_cases two : value ≤ 0x7FF
  · have first := @toNat (value / 64 % 0x20 + 0xC0) (by omega)
    have sequence := @IsSequence.two (UInt8.ofNat (value / 64 % 0x20 + 0xC0))
      (UInt8.ofNat (value % 0x40 + 0x80)) (by omega) (by omega) (by omega) (by omega)
    simp only [first, last] at sequence
    have bits : (value / 64 % 0x20 + 0xC0 - 0xC0) * 64 + (value % 0x40 + 0x80 - 0x80) = value := by
      omega
    simp only [bits] at sequence
    simpa only [one, two, if_true, if_false] using sequence
  by_cases three : value ≤ 0xFFFF
  · have first := @toNat (value / 4096 % 0x10 + 0xE0) (by omega)
    have sequence := @IsSequence.three (UInt8.ofNat (value / 4096 % 0x10 + 0xE0))
      (UInt8.ofNat (value / 64 % 0x40 + 0x80)) (UInt8.ofNat (value % 0x40 + 0x80))
      (by omega) (by omega) (by split <;> omega) (by split <;> omega) (by omega) (by omega)
    simp only [first, third, last] at sequence
    have bits :
        ((value / 4096 % 0x10 + 0xE0 - 0xE0) * 64 + (value / 64 % 0x40 + 0x80 - 0x80)) * 64 +
          (value % 0x40 + 0x80 - 0x80) = value := by
      omega
    simp only [bits] at sequence
    simpa only [one, two, three, if_true, if_false] using sequence
  · have first := @toNat (value / 262144 % 0x08 + 0xF0) (by omega)
    have sequence := @IsSequence.four (UInt8.ofNat (value / 262144 % 0x08 + 0xF0))
      (UInt8.ofNat (value / 4096 % 0x40 + 0x80))
      (UInt8.ofNat (value / 64 % 0x40 + 0x80)) (UInt8.ofNat (value % 0x40 + 0x80))
      (by omega) (by omega) (by split <;> omega) (by split <;> omega) (by omega) (by omega)
      (by omega) (by omega)
    simp only [first, second, third, last] at sequence
    have bits :
        (((value / 262144 % 0x08 + 0xF0 - 0xF0) * 64 + (value / 4096 % 0x40 + 0x80 - 0x80)) * 64 +
            (value / 64 % 0x40 + 0x80 - 0x80)) * 64 + (value % 0x40 + 0x80 - 0x80) = value := by
      omega
    simp only [bits] at sequence
    simpa only [one, two, three, if_true, if_false] using sequence

theorem isValidChar_of_isSequence (sequence : IsSequence bytes value) : value.isValidChar := by
  cases sequence with
  | one low => left; omega
  | two low high secondLow secondHigh => left; omega
  | three low high secondLow secondHigh thirdLow thirdHigh =>
      simp only [Nat.isValidChar]
      split at secondHigh <;> omega
  | four low high secondLow secondHigh thirdLow thirdHigh fourthLow fourthHigh =>
      right
      split at secondLow <;> split at secondHigh <;> omega

theorem encode_of_isSequence (sequence : IsSequence bytes value) :
    String.utf8EncodeChar (Char.ofNat value) = bytes := by
  have toNat := toNat_ofNat (isValidChar_of_isSequence sequence)
  have ofNat : ∀ {value : Nat} {byte : UInt8}, value = byte.toNat → UInt8.ofNat value = byte := by
    rintro _ byte rfl
    exact UInt8.ofNat_toNat
  simp only [String.utf8EncodeChar, toNat]
  cases sequence with
  | @one first low =>
      rw [if_pos (by omega), ofNat rfl]
  | @two first second low high secondLow secondHigh =>
      generalize bits : (first.toNat - 0xC0) * 64 + (second.toNat - 0x80) = value
      have firstEq := @ofNat (value / 64 % 0x20 + 0xC0) first (by omega)
      have secondEq := @ofNat (value % 0x40 + 0x80) second (by omega)
      rw [if_neg (by omega), if_pos (by omega), firstEq, secondEq]
  | @three first second third low high secondLow secondHigh thirdLow thirdHigh =>
      have secondAbove : 0x80 ≤ second.toNat := by split at secondLow <;> omega
      have secondBelow : second.toNat ≤ 0xBF := by split at secondHigh <;> omega
      generalize bits : ((first.toNat - 0xE0) * 64 + (second.toNat - 0x80)) * 64 +
        (third.toNat - 0x80) = value
      have firstEq := @ofNat (value / 4096 % 0x10 + 0xE0) first (by omega)
      have secondEq := @ofNat (value / 64 % 0x40 + 0x80) second (by omega)
      have thirdEq := @ofNat (value % 0x40 + 0x80) third (by omega)
      have large : 0x7FF < value := by split at secondLow <;> omega
      rw [if_neg (by omega), if_neg (by omega), if_pos (by omega), firstEq, secondEq, thirdEq]
  | @four first second third fourth low high secondLow secondHigh thirdLow thirdHigh fourthLow
      fourthHigh =>
      have secondAbove : 0x80 ≤ second.toNat := by split at secondLow <;> omega
      have secondBelow : second.toNat ≤ 0xBF := by split at secondHigh <;> omega
      generalize bits : (((first.toNat - 0xF0) * 64 + (second.toNat - 0x80)) * 64 +
        (third.toNat - 0x80)) * 64 + (fourth.toNat - 0x80) = value
      have firstEq := @ofNat (value / 262144 % 0x08 + 0xF0) first (by omega)
      have secondEq := @ofNat (value / 4096 % 0x40 + 0x80) second (by omega)
      have thirdEq := @ofNat (value / 64 % 0x40 + 0x80) third (by omega)
      have fourthEq := @ofNat (value % 0x40 + 0x80) fourth (by omega)
      have large : 0xFFFF < value := by split at secondLow <;> omega
      rw [if_neg (by omega), if_neg (by omega), if_neg (by omega), firstEq, secondEq, thirdEq,
        fourthEq]

theorem unitsFrom_none_cons (byte : UInt8) (rest : Bytes) :
    unitsFrom none (byte :: rest) =
      if byte < 0x80 then some (Char.ofNat byte.toNat) :: unitsFrom none rest
      else match begin? byte with
        | some sequence => unitsFrom (some sequence) rest
        | none => none :: unitsFrom none rest :=
  unitsFrom.eq_def none (byte :: rest)

theorem unitsFrom_some_cons (sequence : Sequence) (byte : UInt8) (rest : Bytes) :
    unitsFrom (some sequence) (byte :: rest) =
      if sequence.lowest ≤ byte && byte ≤ sequence.highest then
        match sequence.extend byte with
        | .inl longer => unitsFrom (some longer) rest
        | .inr char => some char :: unitsFrom none rest
      else none :: unitsFrom none (byte :: rest) := by
  simp only [unitsFrom_none_cons]
  exact unitsFrom.eq_def (some sequence) (byte :: rest)

theorem begin?_eq (lead : UInt8) :
    begin? lead =
      if lead.toNat < 0xC2 then none
      else if lead.toNat < 0xE0 then some ⟨lead.toNat - 0xC0, 0x80, 0xBF, 0⟩
      else if lead.toNat < 0xF0 then
        some ⟨lead.toNat - 0xE0, if lead.toNat = 0xE0 then 0xA0 else 0x80,
          if lead.toNat = 0xED then 0x9F else 0xBF, 1⟩
      else if lead.toNat < 0xF5 then
        some ⟨lead.toNat - 0xF0, if lead.toNat = 0xF0 then 0x90 else 0x80,
          if lead.toNat = 0xF4 then 0x8F else 0xBF, 2⟩
      else none := by
  simp only [begin?, UInt8.lt_iff_toNat_lt, beq_iff_eq, ← UInt8.toNat_inj]
  rfl

theorem unitsFrom_lead {lead : UInt8} (high : 0x80 ≤ lead.toNat) (rest : Bytes) :
    unitsFrom none (lead :: rest) =
      match begin? lead with
      | some sequence => unitsFrom (some sequence) rest
      | none => none :: unitsFrom none rest := by
  rw [unitsFrom_none_cons, if_neg]
  intro single
  exact absurd (UInt8.lt_iff_toNat_lt.mp single) (Nat.not_lt_of_le high)

theorem unitsFrom_extend {bits further : Nat} {lowest highest byte : UInt8}
    (low : lowest.toNat ≤ byte.toNat) (high : byte.toNat ≤ highest.toNat) (rest : Bytes) :
    unitsFrom (some ⟨bits, lowest, highest, further⟩) (byte :: rest) =
      match further with
      | 0 => some (Char.ofNat (bits * 64 + (byte.toNat - 0x80))) :: unitsFrom none rest
      | further + 1 =>
          unitsFrom (some ⟨bits * 64 + (byte.toNat - 0x80), 0x80, 0xBF, further⟩) rest := by
  have within : (lowest ≤ byte && byte ≤ highest) = true := by
    simp [UInt8.le_iff_toNat_le, low, high]
  simp only [unitsFrom_some_cons, within, if_true]
  cases further <;> rfl

theorem unitsFrom_continue {bits further : Nat} {byte : UInt8} (low : 0x80 ≤ byte.toNat)
    (high : byte.toNat ≤ 0xBF) (rest : Bytes) :
    unitsFrom (some ⟨bits, 0x80, 0xBF, further⟩) (byte :: rest) =
      match further with
      | 0 => some (Char.ofNat (bits * 64 + (byte.toNat - 0x80))) :: unitsFrom none rest
      | further + 1 =>
          unitsFrom (some ⟨bits * 64 + (byte.toNat - 0x80), 0x80, 0xBF, further⟩) rest :=
  @unitsFrom_extend bits further 0x80 0xBF byte low high rest

theorem toNat_ite {condition : Prop} [Decidable condition] (first second : UInt8) :
    (if condition then first else second).toNat =
      if condition then first.toNat else second.toNat := by
  split <;> rfl

/-- The decoder takes the well-formed sequences. -/
theorem unitsFrom_sequence (sequence : IsSequence bytes value) (rest : Bytes) :
    unitsFrom none (bytes ++ rest) = some (Char.ofNat value) :: unitsFrom none rest := by
  cases sequence with
  | @one first low =>
      have single : first < 0x80 := UInt8.lt_iff_toNat_lt.mpr low
      simp [unitsFrom_none_cons, single]
  | @two first second low high secondLow secondHigh =>
      have begun : begin? first = some ⟨first.toNat - 0xC0, 0x80, 0xBF, 0⟩ := by
        rw [begin?_eq, if_neg (by omega), if_pos high]
      simp only [List.cons_append, List.nil_append]
      rw [unitsFrom_lead (by omega), begun]
      exact unitsFrom_continue secondLow secondHigh rest
  | @three first second third low high secondLow secondHigh thirdLow thirdHigh =>
      have begun : begin? first =
          some ⟨first.toNat - 0xE0, if first.toNat = 0xE0 then 0xA0 else 0x80,
            if first.toNat = 0xED then 0x9F else 0xBF, 1⟩ := by
        rw [begin?_eq, if_neg (by omega), if_neg (by omega), if_pos high]
      simp only [List.cons_append, List.nil_append]
      rw [unitsFrom_lead (by omega), begun]
      refine (unitsFrom_extend ?_ ?_ _).trans (unitsFrom_continue thirdLow thirdHigh rest)
      · simp only [toNat_ite]
        exact secondLow
      · simp only [toNat_ite]
        exact secondHigh
  | @four first second third fourth low high secondLow secondHigh thirdLow thirdHigh fourthLow
      fourthHigh =>
      have begun : begin? first =
          some ⟨first.toNat - 0xF0, if first.toNat = 0xF0 then 0x90 else 0x80,
            if first.toNat = 0xF4 then 0x8F else 0xBF, 2⟩ := by
        rw [begin?_eq, if_neg (by omega), if_neg (by omega), if_neg (by omega), if_pos high]
      simp only [List.cons_append, List.nil_append]
      rw [unitsFrom_lead (by omega), begun]
      refine (unitsFrom_extend ?_ ?_ _).trans
        ((unitsFrom_continue thirdLow thirdHigh _).trans
          (unitsFrom_continue fourthLow fourthHigh rest))
      · simp only [toNat_ite]
        exact secondLow
      · simp only [toNat_ite]
        exact secondHigh

theorem mapM_some_cons (char : Char) (units : List (Option Char)) :
    (some char :: units).mapM id = (units.mapM id).map (char :: ·) := by
  simp only [List.mapM_cons]
  cases units.mapM id <;> rfl

theorem mapM_none_cons (units : List (Option Char)) :
    (none :: units : List (Option Char)).mapM id = none := by
  simp only [List.mapM_cons]
  rfl

theorem exists_extend {bits further : Nat} {lowest highest : UInt8}
    (decoded : (unitsFrom (some ⟨bits, lowest, highest, further⟩) bytes).mapM id = some text) :
    ∃ byte rest, bytes = byte :: rest ∧ lowest.toNat ≤ byte.toNat ∧ byte.toNat ≤ highest.toNat ∧
      (match further with
        | 0 => some (Char.ofNat (bits * 64 + (byte.toNat - 0x80))) :: unitsFrom none rest
        | further + 1 =>
            unitsFrom (some ⟨bits * 64 + (byte.toNat - 0x80), 0x80, 0xBF, further⟩) rest).mapM id =
        some text := by
  cases bytes with
  | nil => cases decoded
  | cons byte rest =>
      by_cases within : lowest.toNat ≤ byte.toNat ∧ byte.toNat ≤ highest.toNat
      · simp only [unitsFrom_extend within.1 within.2] at decoded
        exact ⟨byte, rest, rfl, within.1, within.2, decoded⟩
      · have outside : (lowest ≤ byte && byte ≤ highest) = false := by
          simpa [UInt8.le_iff_toNat_le] using within
        simp only [unitsFrom_some_cons, outside, Bool.false_eq_true, if_false,
          mapM_none_cons] at decoded
        cases decoded

/-- What the decoder takes for the first character is a well-formed sequence. -/
theorem exists_isSequence {byte : UInt8}
    (decoded : (unitsFrom none (byte :: rest)).mapM id = some text) :
    ∃ first value others more, IsSequence first value ∧ byte :: rest = first ++ others ∧
      text = Char.ofNat value :: more ∧ (unitsFrom none others).mapM id = some more := by
  have finish : ∀ {first others : Bytes} {value : Nat}, IsSequence first value →
      byte :: rest = first ++ others →
      (some (Char.ofNat value) :: unitsFrom none others).mapM id = some text →
      ∃ first value others more, IsSequence first value ∧ byte :: rest = first ++ others ∧
        text = Char.ofNat value :: more ∧ (unitsFrom none others).mapM id = some more := by
    intro first others value sequence split units
    simp only [mapM_some_cons, Option.map_eq_some_iff] at units
    rcases units with ⟨more, othersDecoded, rfl⟩
    exact ⟨first, value, others, more, sequence, split, rfl, othersDecoded⟩
  by_cases single : byte.toNat < 0x80
  · have small : byte < 0x80 := UInt8.lt_iff_toNat_lt.mpr single
    simp only [unitsFrom_none_cons, if_pos small] at decoded
    exact finish (.one single) rfl decoded
  simp only [unitsFrom_lead (Nat.le_of_not_lt single), begin?_eq] at decoded
  by_cases low : byte.toNat < 0xC2
  · simp only [low, if_true, mapM_none_cons] at decoded
    cases decoded
  by_cases two : byte.toNat < 0xE0
  · simp only [low, two, if_true, if_false] at decoded
    rcases exists_extend decoded with ⟨second, others, rfl, secondLow, secondHigh, units⟩
    exact finish (.two (Nat.le_of_not_lt low) two secondLow secondHigh) rfl units
  by_cases three : byte.toNat < 0xF0
  · simp only [low, two, three, if_true, if_false] at decoded
    rcases exists_extend decoded with ⟨second, _, rfl, secondLow, secondHigh, decoded⟩
    rcases exists_extend decoded with ⟨third, others, rfl, thirdLow, thirdHigh, units⟩
    simp only [toNat_ite] at secondLow secondHigh
    exact finish (.three (Nat.le_of_not_lt two) three secondLow secondHigh thirdLow thirdHigh) rfl
      units
  by_cases four : byte.toNat < 0xF5
  · simp only [low, two, three, four, if_true, if_false] at decoded
    rcases exists_extend decoded with ⟨second, _, rfl, secondLow, secondHigh, decoded⟩
    rcases exists_extend decoded with ⟨third, _, rfl, thirdLow, thirdHigh, decoded⟩
    rcases exists_extend decoded with ⟨fourth, others, rfl, fourthLow, fourthHigh, units⟩
    simp only [toNat_ite] at secondLow secondHigh
    exact finish (.four (Nat.le_of_not_lt three) four secondLow secondHigh thirdLow thirdHigh
      fourthLow fourthHigh) rfl units
  · simp only [low, two, three, four, if_false, mapM_none_cons] at decoded
    cases decoded

theorem flatMap_encode_of_units {bytes : Bytes} {text : List Char}
    (decoded : (unitsFrom none bytes).mapM id = some text) :
    text.flatMap String.utf8EncodeChar = bytes := by
  cases bytes with
  | nil =>
      cases decoded
      rfl
  | cons byte rest =>
      rcases exists_isSequence decoded with
        ⟨first, value, others, more, sequence, split, rfl, othersDecoded⟩
      have shorter : others.length < (byte :: rest).length := by
        have nonempty : 0 < first.length := by cases sequence <;> exact Nat.succ_pos _
        simp only [split, List.length_append]
        omega
      rw [List.flatMap_cons, encode_of_isSequence sequence, split,
        flatMap_encode_of_units othersDecoded]
termination_by bytes.length

/-- The strict reading is the inverse of encoding. -/
theorem decode?_eq_some_iff :
    decode? bytes = some text ↔ text.flatMap String.utf8EncodeChar = bytes := by
  simp only [decode?, units]
  constructor
  · exact flatMap_encode_of_units
  · rintro rfl
    induction text with
    | nil => rfl
    | cons char text ih =>
        have self : Char.ofNat char.val.toNat = char := Char.ofNat_toNat char
        rw [List.flatMap_cons, unitsFrom_sequence (isSequence_encode char), self, mapM_some_cons,
          ih]
        rfl

/-- A byte string that is the encoding of some text. -/
def IsText (bytes : Bytes) : Prop :=
  ∃ text : List Char, text.flatMap String.utf8EncodeChar = bytes

theorem isText_iff : IsText bytes ↔ (decode? bytes).isSome := by
  simp only [IsText, ← decode?_eq_some_iff, Option.isSome_iff_exists]

end HttpRelay.Utf8
