import HttpRelay.Text.Numeral

/-!
# Decimal numerals

A numeral in base ten is a run of decimal digits, and its value that of the digits. A number that
is written in decimal digits is read again from them.
-/

namespace HttpRelay

namespace Text

theorem digit?_ten (char : Char) :
    digit? 10 char = if char.isDigit then some (char.toNat - '0'.toNat) else none := by
  have digits : char.isDigit = true ↔ '0' ≤ char ∧ char ≤ '9' := by
    simp [Char.isDigit, Char.le_def, UInt32.le_iff_toNat_le]
  by_cases isDigit : '0' ≤ char ∧ char ≤ '9'
  · have small : char.toNat ≤ '9'.toNat := UInt32.le_iff_toNat_le.mp isDigit.2
    have nine : '9'.toNat = 57 := rfl
    have zero : '0'.toNat = 48 := rfl
    simp only [digit?, isDigit, digits.mpr isDigit, and_self, if_true]
    exact if_pos (by omega)
  · have notDigit : char.isDigit = false := by simpa [← digits] using isDigit
    simp only [digit?, isDigit, notDigit, if_false]
    apply if_neg
    split
    · simp
    · split <;> simp

theorem numeral?_ten (text : List Char) :
    numeral? 10 text =
      if text.isEmpty || !text.all Char.isDigit then none
      else some (ofDigits 10 (text.map fun char => char.toNat - '0'.toNat)) := by
  have digits : text.mapM (digit? 10) =
      if text.all Char.isDigit then some (text.map fun char => char.toNat - '0'.toNat)
      else none := by
    induction text with
    | nil => rfl
    | cons char text ih =>
        simp only [List.mapM_cons, digit?_ten, ih, List.all_cons, List.map_cons]
        cases char.isDigit <;> cases text.all Char.isDigit <;> rfl
  simp only [numeral?, digits]
  cases text.isEmpty <;> cases text.all Char.isDigit <;> rfl

theorem numeral?_toDigits (number : Nat) : numeral? 10 (Nat.toDigits 10 number) = some number := by
  have nonempty : (Nat.toDigits 10 number).isEmpty = false := by
    simp [Nat.toDigits_ne_nil]
  have areDigits : (Nat.toDigits 10 number).all Char.isDigit = true := by
    simp only [List.all_eq_true]
    intro char isIn
    exact Nat.isDigit_of_mem_toDigits (by decide) (by decide) isIn
  have value : ofDigits 10 ((Nat.toDigits 10 number).map fun char => char.toNat - '0'.toNat) =
      number := by
    rw [ofDigits, List.foldl_map]
    simp only [Nat.mul_comm _ 10]
    rw [← Nat.ofDigitChars_eq_foldl]
    exact Nat.ofDigitChars_ten_toDigits
  rw [numeral?_ten, nonempty, areDigits, value]
  rfl

end Text

end HttpRelay
