import HttpRelay.Proofs.Text.Utf8

/-!
# ASCII in UTF-8

An ASCII byte is a character wherever it stands, and it belongs to no other character. A byte
string is therefore read in parts around such a byte (`Utf8.decode?_append_cons`), and bringing
letters to lower case before the reading comes to the same as bringing them to lower case behind
it (`Utf8.decode?_map_lower`).
-/

namespace HttpRelay

namespace Bytes

variable {byte : UInt8}

/-- A property of the bytes below a bound, checked value by value. -/
theorem induction_of_lt {motive : UInt8 → Prop} {bound : Nat}
    (values : ∀ value < bound, motive (UInt8.ofNat value)) {byte : UInt8}
    (below : byte.toNat < bound) : motive byte := by
  have checked := values byte.toNat below
  rwa [UInt8.ofNat_toNat] at checked

/-- The characters of bytes that are ASCII. -/
def toChars (bytes : Bytes) : List Char :=
  bytes.map fun byte => Char.ofNat byte.toNat

theorem ascii_of_isBlank (blank : isBlank byte = true) : byte.toNat < 128 := by
  simp only [isBlank, Bool.or_eq_true, beq_iff_eq] at blank
  rcases blank with rfl | rfl <;> decide

theorem lower_lower (byte : UInt8) : lower (lower byte) = lower byte := by
  apply @induction_of_lt (fun byte => lower (lower byte) = lower byte) 256 _ byte byte.toNat_lt
  decide +kernel

theorem isToken_lower (byte : UInt8) : isToken (lower byte) = isToken byte := by
  apply @induction_of_lt (fun byte => isToken (lower byte) = isToken byte) 256 _ byte
    byte.toNat_lt
  decide +kernel

theorem lower_of_not_ascii (high : 128 ≤ byte.toNat) : lower byte = byte := by
  revert high
  apply @induction_of_lt (fun byte => 128 ≤ byte.toNat → lower byte = byte) 256 _ byte
    byte.toNat_lt
  decide +kernel

theorem ascii_of_lower (ascii : (lower byte).toNat < 128) : byte.toNat < 128 := by
  by_cases low : byte.toNat < 128
  · exact low
  · rwa [lower_of_not_ascii (Nat.le_of_not_lt low)] at ascii

theorem ascii_lower (ascii : byte.toNat < 128) : (lower byte).toNat < 128 := by
  apply @induction_of_lt (fun byte => (lower byte).toNat < 128) 128 _ byte ascii
  decide +kernel

theorem map_lower_of_not_ascii {bytes : Bytes} (high : ∀ byte ∈ bytes, 128 ≤ byte.toNat) :
    bytes.map lower = bytes := by
  have same : bytes.map lower = bytes.map id :=
    List.map_congr_left fun byte isIn => lower_of_not_ascii (high byte isIn)
  rw [same, List.map_id]

theorem toLower_ofNat (ascii : byte.toNat < 128) :
    (Char.ofNat byte.toNat).toLower = Char.ofNat (lower byte).toNat := by
  apply @induction_of_lt
    (fun byte => (Char.ofNat byte.toNat).toLower = Char.ofNat (lower byte).toNat) 128 _ byte ascii
  decide +kernel

end Bytes

namespace Utf8

variable {bytes first second : Bytes} {text : List Char} {char : Char} {byte : UInt8}

section Encoding

theorem encode_ofNat (ascii : byte.toNat < 128) :
    String.utf8EncodeChar (Char.ofNat byte.toNat) = [byte] :=
  encode_of_isSequence (.one ascii)

/-- A character is ASCII, or no byte of its encoding is. -/
theorem encode_cases (char : Char) :
    (∃ byte : UInt8, byte.toNat < 128 ∧ char = Char.ofNat byte.toNat) ∨
      128 ≤ char.toNat ∧ ∀ byte ∈ String.utf8EncodeChar char, 128 ≤ byte.toNat := by
  have sequence : IsSequence (String.utf8EncodeChar char) char.toNat := isSequence_encode char
  generalize String.utf8EncodeChar char = bytes at sequence
  generalize valueEq : char.toNat = value at sequence
  cases sequence with
  | @one byte low =>
      refine Or.inl ⟨byte, low, ?_⟩
      rw [← valueEq, Char.ofNat_toNat]
  | two low high secondLow secondHigh =>
      refine Or.inr ⟨by omega, ?_⟩
      simp only [List.forall_mem_cons]
      exact ⟨by omega, by omega, List.forall_mem_nil _⟩
  | @three first second third low high secondLow secondHigh thirdLow thirdHigh =>
      refine Or.inr ⟨?_, ?_⟩
      · split at secondLow <;> omega
      · have secondAbove : 0x80 ≤ second.toNat := by split at secondLow <;> omega
        simp only [List.forall_mem_cons]
        exact ⟨by omega, by omega, by omega, List.forall_mem_nil _⟩
  | @four first second third fourth low high secondLow secondHigh thirdLow thirdHigh fourthLow
      fourthHigh =>
      refine Or.inr ⟨?_, ?_⟩
      · split at secondLow <;> omega
      · have secondAbove : 0x80 ≤ second.toNat := by split at secondLow <;> omega
        simp only [List.forall_mem_cons]
        exact ⟨by omega, by omega, by omega, by omega, List.forall_mem_nil _⟩

theorem decode?_of_ascii (ascii : ∀ byte ∈ bytes, byte.toNat < 128) :
    decode? bytes = some bytes.toChars := by
  rw [decode?_eq_some_iff]
  induction bytes with
  | nil => rfl
  | cons byte bytes ih =>
      have others := ih fun byte isIn => ascii byte (List.mem_cons_of_mem _ isIn)
      simp only [Bytes.toChars] at others
      simp only [Bytes.toChars, List.map_cons, List.flatMap_cons,
        encode_ofNat (ascii byte List.mem_cons_self), others]
      rfl

/-- Text that is ASCII was decoded byte by byte. -/
theorem ascii_of_decode? (decoded : decode? bytes = some text)
    (ascii : ∀ char ∈ text, char.toNat < 128) :
    (∀ byte ∈ bytes, byte.toNat < 128) ∧ bytes.toChars = text := by
  rw [decode?_eq_some_iff] at decoded
  subst decoded
  induction text with
  | nil => simp [Bytes.toChars]
  | cons char text ih =>
      have low : char.toNat < 128 := ascii char List.mem_cons_self
      rcases encode_cases char with ⟨byte, byteLow, rfl⟩ | ⟨high, _⟩
      · rcases ih fun char isIn => ascii char (List.mem_cons_of_mem _ isIn) with ⟨others, chars⟩
        rw [List.flatMap_cons, encode_ofNat byteLow, List.singleton_append]
        refine ⟨List.forall_mem_cons.mpr ⟨byteLow, others⟩, ?_⟩
        simp only [Bytes.toChars] at chars
        simp only [Bytes.toChars, List.map_cons, chars]
      · omega

end Encoding

section Parts

theorem lowest_of_begin? {lead : UInt8} {sequence : Sequence}
    (begun : begin? lead = some sequence) : 0x80 ≤ sequence.lowest.toNat := by
  rw [begin?_eq] at begun
  split at begun
  · cases begun
  · split at begun
    · rw [← Option.some.inj begun]
      simp
    · split at begun
      · rw [← Option.some.inj begun, toNat_ite]
        split <;> simp
      · split at begun
        · rw [← Option.some.inj begun, toNat_ite]
          split <;> simp
        · cases begun

theorem lowest_of_extend {sequence longer : Sequence}
    (extended : sequence.extend byte = .inl longer) : 0x80 ≤ longer.lowest.toNat := by
  rw [Sequence.extend] at extended
  split at extended
  · cases extended
  · rw [← Sum.inl.inj extended]
    simp

/-- An ASCII byte ends what was pending, and begins nothing. -/
theorem unitsFrom_append_cons (ascii : byte.toNat < 128) (first second : Bytes)
    {pending : Option Sequence} (above : ∀ sequence ∈ pending, 0x80 ≤ sequence.lowest.toNat) :
    unitsFrom pending (first ++ byte :: second) =
      unitsFrom pending first ++ some (Char.ofNat byte.toNat) :: unitsFrom none second := by
  have single : byte < 0x80 := UInt8.lt_iff_toNat_lt.mpr ascii
  have noneAbove : ∀ sequence ∈ (none : Option Sequence), 0x80 ≤ sequence.lowest.toNat := by simp
  induction first generalizing pending with
  | nil =>
      have alone : unitsFrom none (byte :: second) =
          some (Char.ofNat byte.toNat) :: unitsFrom none second := by
        rw [unitsFrom_none_cons, if_pos single]
      cases pending with
      | none => exact alone
      | some sequence =>
          have outside : (sequence.lowest ≤ byte && byte ≤ sequence.highest) = false := by
            have low := above sequence rfl
            simp only [Bool.and_eq_false_iff, decide_eq_false_iff_not, UInt8.le_iff_toNat_le]
            omega
          simp only [List.nil_append, unitsFrom_some_cons, outside, alone]
          rfl
  | cons other first ih =>
      have fresh : unitsFrom none (other :: first ++ byte :: second) =
          unitsFrom none (other :: first) ++
            some (Char.ofNat byte.toNat) :: unitsFrom none second := by
        simp only [List.cons_append, unitsFrom_none_cons]
        split
        · simp only [ih noneAbove, List.cons_append]
        · cases begun : begin? other with
          | none => simp only [ih noneAbove, List.cons_append]
          | some sequence =>
              exact ih fun sequence isPending => by
                cases isPending
                exact lowest_of_begin? begun
      cases pending with
      | none => exact fresh
      | some sequence =>
          simp only [List.cons_append] at fresh
          simp only [List.cons_append, unitsFrom_some_cons, fresh]
          split
          · cases extended : sequence.extend other with
            | inl longer =>
                exact ih fun sequence isPending => by
                  cases isPending
                  exact lowest_of_extend extended
            | inr char => simp only [ih noneAbove, List.cons_append]
          · rfl

/-- What stands before an ASCII byte is read on its own, and so is what stands behind it. -/
theorem decode?_append_cons (ascii : byte.toNat < 128) (first second : Bytes) :
    decode? (first ++ byte :: second) =
      (decode? first).bind fun before =>
        (decode? second).map fun after => before ++ Char.ofNat byte.toNat :: after := by
  have noneAbove : ∀ sequence ∈ (none : Option Sequence), 0x80 ≤ sequence.lowest.toNat := by simp
  simp only [decode?, units, unitsFrom_append_cons ascii first second noneAbove, List.mapM_append,
    mapM_some_cons]
  cases (unitsFrom none first).mapM id <;> cases (unitsFrom none second).mapM id <;> rfl

theorem decode?_append_ascii (ascii : ∀ byte ∈ second, byte.toNat < 128) :
    decode? (first ++ second) = (decode? first).map (· ++ second.toChars) := by
  cases second with
  | nil =>
      simp only [List.append_nil, Bytes.toChars, List.map_nil]
      exact Option.map_id'.symm
  | cons byte second =>
      rcases List.forall_mem_cons.mp ascii with ⟨low, others⟩
      rw [decode?_append_cons low, decode?_of_ascii others]
      cases decode? first <;> rfl

theorem decode?_ascii_append (ascii : ∀ byte ∈ first, byte.toNat < 128) :
    decode? (first ++ second) = (decode? second).map (first.toChars ++ ·) := by
  induction first with
  | nil => exact Option.map_id'.symm
  | cons byte first ih =>
      rcases List.forall_mem_cons.mp ascii with ⟨low, others⟩
      have split := decode?_append_cons low [] (first ++ second)
      have nothing : decode? [] = some [] := rfl
      simp only [List.nil_append, ih others, nothing, Option.bind_some] at split
      rw [List.cons_append, split]
      cases decode? second <;> rfl

end Parts

section Case

theorem toLower_of_not_ascii (high : 128 ≤ char.toNat) : char.toLower = char := by
  have notUpper : ¬(char.val ≥ 'A'.val ∧ char.val ≤ 'Z'.val) := by
    rintro ⟨_, below⟩
    have le : char.toNat ≤ 'Z'.toNat := UInt32.le_iff_toNat_le.mp below
    have last : 'Z'.toNat = 90 := rfl
    omega
  exact dif_neg notUpper

theorem encode_toLower (char : Char) :
    String.utf8EncodeChar char.toLower = (String.utf8EncodeChar char).map Bytes.lower := by
  rcases encode_cases char with ⟨byte, ascii, rfl⟩ | ⟨high, bytesHigh⟩
  · rw [Bytes.toLower_ofNat ascii, encode_ofNat (Bytes.ascii_lower ascii), encode_ofNat ascii]
    rfl
  · rw [toLower_of_not_ascii high, Bytes.map_lower_of_not_ascii bytesHigh]

theorem isText_of_map_lower (lowered : IsText (bytes.map Bytes.lower)) : IsText bytes := by
  rcases lowered with ⟨text, encoded⟩
  induction text generalizing bytes with
  | nil =>
      refine ⟨[], ?_⟩
      simpa using encoded
  | cons char text ih =>
      rw [List.flatMap_cons] at encoded
      rcases List.append_eq_map_iff.mp encoded with ⟨first, second, rfl, firstEq, secondEq⟩
      rcases ih secondEq.symm with ⟨others, othersEq⟩
      rcases encode_cases char with ⟨byte, ascii, rfl⟩ | ⟨_, high⟩
      · rw [encode_ofNat ascii] at firstEq
        rcases List.map_eq_singleton_iff.mp firstEq with ⟨upper, rfl, lowerEq⟩
        have upperAscii : upper.toNat < 128 := Bytes.ascii_of_lower (by rwa [lowerEq])
        refine ⟨Char.ofNat upper.toNat :: others, ?_⟩
        rw [List.flatMap_cons, encode_ofNat upperAscii, othersEq]
      · -- No byte of such a character is a letter.
        have firstHigh : ∀ byte ∈ first, 128 ≤ byte.toNat := by
          intro byte isIn
          apply Nat.le_of_not_lt
          intro ascii
          have lowerHigh := high (Bytes.lower byte) (firstEq ▸ List.mem_map_of_mem isIn)
          exact absurd (Bytes.ascii_lower ascii) (Nat.not_lt_of_le lowerHigh)
        refine ⟨char :: others, ?_⟩
        rw [List.flatMap_cons, ← firstEq, Bytes.map_lower_of_not_ascii firstHigh, othersEq]

/-- The case of letters can be dropped before the reading or behind it. -/
theorem decode?_map_lower (bytes : Bytes) :
    decode? (bytes.map Bytes.lower) = (decode? bytes).map (·.map Char.toLower) := by
  cases decoded : decode? bytes with
  | some text =>
      rw [decode?_eq_some_iff] at decoded
      rw [Option.map_some, decode?_eq_some_iff, ← decoded, List.flatMap_map, List.map_flatMap]
      simp only [encode_toLower]
  | none =>
      rw [Option.map_none, ← Option.not_isSome_iff_eq_none, ← isText_iff]
      intro lowered
      have isSome := isText_iff.mp (isText_of_map_lower lowered)
      rw [decoded] at isSome
      cases isSome

end Case

end Utf8

end HttpRelay
