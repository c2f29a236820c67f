import Mathlib.Data.List.Perm.Basic
import HttpRelay.Proofs.Message.Elements
import HttpRelay.Proofs.Message.Fields

/-!
# Fields that say the same about the body

What fields say about the body is what they say as a whole (`Field.AreAlike`): whether their
values are text, which elements their lengths have, and which codings they name, in any order.
Fields that agree in this frame the body in the same way (`Field.AreAlike.frames`). They agree if
they are the same in another order, if a list stands in two of them instead of one, or if codings
are written in another case, and a field with another name adds nothing.
-/

namespace HttpRelay

/-- What stands between the elements of a list. -/
def Bytes.comma : UInt8 := 0x2C

namespace Field

variable {field other whole first second : Field} {fields others : List Field}

section Alike

/-- The elements of the length that a field gives. -/
def elements (field : Field) : List (List Char) :=
  if field.name = contentLength then field.text?.toList.flatMap listElements else []

/-- The codings that a field names and that change anything. -/
def named (field : Field) : List Coding :=
  if field.name = transferEncoding then
    (field.text?.toList.flatMap codingsOf).filter (· != .identity)
  else []

/-- The fields that have a say about the body are text. -/
def AreText (fields : List Field) : Prop :=
  ∀ field ∈ fields, field.name = transferEncoding ∨ field.name = contentLength →
    Utf8.IsText field.value

/-- Fields that say the same about the body. What they say counts only if all of it is text, since
they are rejected otherwise. -/
structure AreAlike (fields others : List Field) : Prop where
  text : AreText fields ↔ AreText others
  elements : AreText fields →
    ∀ element, element ∈ lengthElements fields ↔ element ∈ lengthElements others
  codings : AreText fields → (namedCodings fields).Perm (namedCodings others)

theorem lengthElements_eq_flatMap (fields : List Field) :
    lengthElements fields = fields.flatMap elements := by
  induction fields with
  | nil => rfl
  | cons field fields ih =>
      rw [List.flatMap_cons, ← ih]
      by_cases isLength : field.name = contentLength
      · cases text : field.text? <;> simp [lengthElements, textsOf, elements, isLength, text]
      · simp [lengthElements, textsOf, elements, isLength]

theorem namedCodings_eq_flatMap (fields : List Field) :
    namedCodings fields = fields.flatMap named := by
  induction fields with
  | nil => rfl
  | cons field fields ih =>
      rw [List.flatMap_cons, ← ih]
      by_cases isEncoding : field.name = transferEncoding
      · cases text : field.text? <;>
          simp [namedCodings, codings, textsOf, named, isEncoding, text]
      · simp [namedCodings, codings, textsOf, named, isEncoding]

namespace AreAlike

theorem refl (fields : List Field) : AreAlike fields fields where
  text := Iff.rfl
  elements _ _ := Iff.rfl
  codings _ := List.Perm.refl _

theorem symm (alike : AreAlike fields others) : AreAlike others fields where
  text := alike.text.symm
  elements text element := (alike.elements (alike.text.mpr text) element).symm
  codings text := (alike.codings (alike.text.mpr text)).symm

theorem of_perm (perm : fields.Perm others) : AreAlike fields others where
  text := by
    have sameMembers : ∀ field, field ∈ fields ↔ field ∈ others := fun field => perm.mem_iff
    simp only [AreText, sameMembers]
  elements _ element := by
    rw [lengthElements_eq_flatMap, lengthElements_eq_flatMap]
    exact (perm.flatMap_right _).mem_iff
  codings _ := by
    rw [namedCodings_eq_flatMap, namedCodings_eq_flatMap]
    exact perm.flatMap_right _

/-- Fields that say the same do so among others. -/
theorem append (alike : AreAlike fields others) (more : List Field) :
    AreAlike (fields ++ more) (others ++ more) where
  text := by
    simp only [AreText, List.forall_mem_append]
    exact and_congr_left fun _ => alike.text
  elements text element := by
    have fieldsText := (List.forall_mem_append.mp text).1
    have sameElements := alike.elements fieldsText element
    simp only [lengthElements_eq_flatMap] at sameElements
    simp only [lengthElements_eq_flatMap, List.flatMap_append, List.mem_append, sameElements]
  codings text := by
    have fieldsText := (List.forall_mem_append.mp text).1
    have sameCodings := alike.codings fieldsText
    simp only [namedCodings_eq_flatMap] at sameCodings
    simp only [namedCodings_eq_flatMap, List.flatMap_append]
    exact sameCodings.append_right _

theorem areSound (alike : AreAlike fields others) (sound : AreSound fields) :
    AreSound others where
  text := alike.text.mp sound.text
  lengths := by
    rcases sound.lengths with ⟨count, small, agree⟩
    refine ⟨count, small, fun element isIn => agree element ?_⟩
    exact (alike.elements sound.text element).mpr isIn

/-- Fields that say the same frame the body in the same way. -/
theorem frames (alike : AreAlike fields others) (sound : AreSound fields) {framing : Framing}
    (framed : Frames fields framing) : Frames others framing := by
  have sameElements := alike.elements sound.text
  have sameCodings := alike.codings sound.text
  cases framing with
  | chunked =>
      rw [Frames] at framed
      rw [framed] at sameCodings
      exact (List.singleton_perm.mp sameCodings).symm
  | length count =>
      rcases framed with ⟨noCodings, element, isIn, elementCount⟩
      rw [noCodings] at sameCodings
      exact ⟨List.nil_perm.mp sameCodings, element, (sameElements element).mp isIn, elementCount⟩
  | empty =>
      rcases framed with ⟨noCodings, noElements⟩
      rw [noCodings] at sameCodings
      refine ⟨List.nil_perm.mp sameCodings, List.eq_nil_iff_forall_not_mem.mpr ?_⟩
      intro element isIn
      have impossible := (sameElements element).mpr isIn
      simp [noElements] at impossible

end AreAlike

end Alike

section Changes

/-- Whether the value is a text of nothing but blanks. -/
def isBlank (field : Field) : Bool :=
  field.text?.any (·.all Text.isBlank)

/-- A list in one field, and the same list in two: the values of the two, with a comma between
them, are the value of the one. -/
structure IsParted (whole first second : Field) : Prop where
  named : whole.name = transferEncoding ∨ whole.name = contentLength
  firstName : first.name = whole.name
  secondName : second.name = whole.name
  value : ∃ left right,
    whole.value = first.value ++ left ++ Bytes.comma :: (right ++ second.value) ∧
      (∀ byte ∈ left, Bytes.isBlank byte = true) ∧ ∀ byte ∈ right, Bytes.isBlank byte = true
  firstNotBlank : first.isBlank = false
  secondNotBlank : second.isBlank = false

/-- Two encodings that differ in the case of letters. -/
structure IsRecoded (first second : Field) : Prop where
  firstName : first.name = transferEncoding
  secondName : second.name = transferEncoding
  value : first.value.map Bytes.lower = second.value.map Bytes.lower

theorem isBlank_toChars {bytes : Bytes} (blank : ∀ byte ∈ bytes, Bytes.isBlank byte = true) :
    ∀ char ∈ bytes.toChars, Text.isBlank char = true := by
  intro char isIn
  rcases List.mem_map.mp isIn with ⟨byte, byteIn, rfl⟩
  have isBlank := blank byte byteIn
  simp only [Bytes.isBlank, Bool.or_eq_true, beq_iff_eq] at isBlank
  rcases isBlank with rfl | rfl <;> decide

theorem all_isBlank_of_text? {text : List Char} (notBlank : field.isBlank = false)
    (decoded : field.text? = some text) : text.all Text.isBlank = false := by
  rwa [isBlank, decoded] at notBlank

theorem areText_singleton_iff
    (claims : field.name = transferEncoding ∨ field.name = contentLength) :
    AreText [field] ↔ field.text?.isSome := by
  rw [AreText, List.forall_mem_singleton, Utf8.isText_iff, text?]
  exact imp_iff_right claims

namespace IsParted

variable (parted : IsParted whole first second)

include parted

/-- The list in one field is text exactly if its two parts are, and then it is read in parts. -/
theorem text_cases :
    (whole.text? = none ∧ (first.text? = none ∨ second.text? = none)) ∨
      ∃ before after left right, first.text? = some before ∧ second.text? = some after ∧
        whole.text? = some (before ++ left ++ ',' :: (right ++ after)) ∧
        (∀ char ∈ left, Text.isBlank char = true) ∧ ∀ char ∈ right, Text.isBlank char = true := by
  rcases parted.value with ⟨left, right, value, leftBlank, rightBlank⟩
  have ascii : ∀ blanks : Bytes, (∀ byte ∈ blanks, Bytes.isBlank byte = true) →
      ∀ byte ∈ blanks, byte.toNat < 128 :=
    fun blanks blank byte isIn => Bytes.ascii_of_isBlank (blank byte isIn)
  have comma : Bytes.comma.toNat < 128 := by decide
  have wholeText : whole.text? = first.text?.bind fun before => second.text?.map fun after =>
      before ++ Bytes.toChars left ++ ',' :: (Bytes.toChars right ++ after) := by
    simp only [text?, value, Utf8.decode?_append_cons comma,
      Utf8.decode?_append_ascii (ascii left leftBlank),
      Utf8.decode?_ascii_append (ascii right rightBlank)]
    cases Utf8.decode? first.value <;> cases Utf8.decode? second.value <;> rfl
  cases firstText : first.text? with
  | none => exact Or.inl ⟨by rw [wholeText, firstText]; rfl, Or.inl rfl⟩
  | some before =>
      cases secondText : second.text? with
      | none => exact Or.inl ⟨by rw [wholeText, firstText, secondText]; rfl, Or.inr rfl⟩
      | some after =>
          refine Or.inr ⟨before, after, _, _, rfl, rfl, ?_, isBlank_toChars leftBlank,
            isBlank_toChars rightBlank⟩
          rw [wholeText, firstText, secondText]
          rfl

theorem areText_iff : AreText [first, second] ↔ first.text?.isSome ∧ second.text?.isSome := by
  have firstClaims := parted.firstName ▸ parted.named
  have secondClaims := parted.secondName ▸ parted.named
  rw [← areText_singleton_iff firstClaims, ← areText_singleton_iff secondClaims]
  simp only [AreText, List.forall_mem_cons, List.not_mem_nil, false_implies, implies_true, and_true]

/-- A list says the same in one field and in two. -/
theorem areAlike : AreAlike [whole] [first, second] := by
  have textIff := areText_singleton_iff parted.named
  rcases parted.text_cases with
    ⟨noText, noPart⟩ | ⟨before, after, left, right, firstText, secondText, wholeText, leftBlank,
      rightBlank⟩
  · -- Where one side is not text, neither is, and nothing else is to be shown.
    have notText : ¬AreText [whole] := by simp [textIff, noText]
    have partsNotText : ¬AreText [first, second] := by
      rw [parted.areText_iff]
      rcases noPart with none | none <;> simp [none]
    exact ⟨iff_of_false notText partsNotText, fun text => absurd text notText,
      fun text => absurd text notText⟩
  · have elementsEq := listElements_join before after leftBlank rightBlank
    have codingsEq := codingsOf_join (all_isBlank_of_text? parted.firstNotBlank firstText)
      (all_isBlank_of_text? parted.secondNotBlank secondText) leftBlank rightBlank
    refine ⟨?_, fun _ element => ?_, fun _ => ?_⟩
    · rw [textIff, parted.areText_iff, wholeText, firstText, secondText]
      simp
    · have same : Field.elements whole = Field.elements first ++ Field.elements second := by
        simp only [Field.elements, parted.firstName, parted.secondName, wholeText, firstText,
          secondText]
        split
        · simp only [Option.toList_some, List.flatMap_singleton, elementsEq]
        · rfl
      simp only [lengthElements_eq_flatMap, List.flatMap_cons, List.flatMap_nil, List.append_nil,
        same]
    · have same : Field.named whole = Field.named first ++ Field.named second := by
        simp only [Field.named, parted.firstName, parted.secondName, wholeText, firstText,
          secondText]
        split
        · simp only [Option.toList_some, List.flatMap_singleton, codingsEq, List.filter_append]
        · rfl
      simp only [namedCodings_eq_flatMap, List.flatMap_cons, List.flatMap_nil, List.append_nil,
        same, List.Perm.refl]

end IsParted

/-- Codings say the same in any case. -/
theorem IsRecoded.areAlike (recoded : IsRecoded first second) : AreAlike [first] [second] := by
  have sameText : first.text?.map (·.map Char.toLower) = second.text?.map (·.map Char.toLower) := by
    simp only [text?, ← Utf8.decode?_map_lower, recoded.value]
  have notLength : transferEncoding ≠ contentLength := by decide
  refine ⟨?_, fun _ element => ?_, fun _ => ?_⟩
  · rw [areText_singleton_iff (Or.inl recoded.firstName),
      areText_singleton_iff (Or.inl recoded.secondName), ← Option.isSome_map, sameText,
      Option.isSome_map]
  · simp [lengthElements_eq_flatMap, Field.elements, recoded.firstName, recoded.secondName,
      notLength]
  · have anyCase : ∀ field : Field, field.text?.toList.flatMap codingsOf =
        (field.text?.map (·.map Char.toLower)).toList.flatMap codingsOf := by
      intro field
      cases field.text? <;> simp [codingsOf_map_toLower]
    have same : Field.named first = Field.named second := by
      simp only [Field.named, recoded.firstName, recoded.secondName, anyCase, sameText]
    simp only [namedCodings_eq_flatMap, List.flatMap_cons, same, List.Perm.refl]

/-- A field with another name has no say about the body. -/
theorem areAlike_nil (notEncoding : field.name ≠ transferEncoding)
    (notLength : field.name ≠ contentLength) : AreAlike [] [field] where
  text := by simp [AreText, notEncoding, notLength]
  elements _ element := by simp [lengthElements_eq_flatMap, Field.elements, notLength]
  codings _ := by simp [namedCodings_eq_flatMap, Field.named, notEncoding]

end Changes

end Field

end HttpRelay
