import HttpRelay.Message.Framing
import HttpRelay.Proofs.Message.LineGrammar

/-!
# Lists with commas

The elements of a list that is made of two lists are those of the first and those of the second,
and so are the codings that it names, unless one of the two is blank (`codingsOf_join`). The case
of ASCII letters makes no difference to the codings (`codingsOf_map_toLower`).
-/

namespace HttpRelay

namespace Text

section Parts

variable {Item : Type} {isBlank isSeparator : Item → Bool} {change : Item → Item}
  {left right : List Item}

theorem trim_append_blanks (text : List Item) (leftBlank : ∀ item ∈ left, isBlank item = true)
    (rightBlank : ∀ item ∈ right, isBlank item = true) :
    trim isBlank (left ++ text ++ right) = trim isBlank text := by
  rcases trim_eq_iff.mp (rfl : trim isBlank text = _) with
    ⟨⟨before, after, textEq, beforeBlank, afterBlank⟩, first, last⟩
  apply trim_eq_iff.mpr
  refine ⟨⟨left ++ before, after ++ right, ?_, ?_, ?_⟩, first, last⟩
  · conv_lhs => rw [textEq]
    simp only [List.append_assoc]
  · exact List.forall_mem_append.mpr ⟨leftBlank, beforeBlank⟩
  · exact List.forall_mem_append.mpr ⟨afterBlank, rightBlank⟩

theorem trim_map (keeps : ∀ item, isBlank (change item) = isBlank item) (text : List Item) :
    trim isBlank (text.map change) = (trim isBlank text).map change := by
  have same : isBlank ∘ change = isBlank := funext keeps
  simp only [trim, List.dropWhile_map, same, ← List.map_reverse]

theorem extendFirst_map (item : Item) (parts : List (List Item)) :
    extendFirst (change item) (parts.map (·.map change)) =
      (extendFirst item parts).map (·.map change) := by
  cases parts <;> rfl

theorem split_map (isSeparator : Item → Bool)
    (keeps : ∀ item, isSeparator (change item) = isSeparator item) (text : List Item) :
    split isSeparator (text.map change) = (split isSeparator text).map (·.map change) := by
  induction text with
  | nil => rfl
  | cons item text ih =>
      simp only [List.map_cons, split, keeps, ih]
      split
      · rfl
      · exact extendFirst_map item _

/-- What has no separator and stands in front of a text belongs to the first part of it. -/
theorem exists_split_append_left (none : ∀ item ∈ left, isSeparator item = false)
    (text : List Item) :
    ∃ first others, split isSeparator text = first :: others ∧
      split isSeparator (left ++ text) = (left ++ first) :: others := by
  induction left with
  | nil =>
      rcases List.exists_cons_of_ne_nil (split_ne_nil isSeparator text) with
        ⟨first, others, parts⟩
      exact ⟨first, others, parts, parts⟩
  | cons item left ih =>
      rcases List.forall_mem_cons.mp none with ⟨notSeparator, noneBehind⟩
      rcases ih noneBehind with ⟨first, others, parts, extended⟩
      refine ⟨first, others, parts, ?_⟩
      simp only [List.cons_append, split, notSeparator, extended]
      rfl

/-- What has no separator and stands behind a text belongs to the last part of it. -/
theorem exists_split_append_right (none : ∀ item ∈ right, isSeparator item = false)
    (text : List Item) :
    ∃ others last, split isSeparator text = others ++ [last] ∧
      split isSeparator (text ++ right) = others ++ [last ++ right] := by
  induction text with
  | nil =>
      rcases exists_split_append_left none [] with ⟨first, others, parts, extended⟩
      cases parts
      exact ⟨[], [], rfl, by simpa using extended⟩
  | cons item text ih =>
      rcases ih with ⟨others, last, parts, extended⟩
      simp only [List.cons_append, split, parts, extended]
      split
      · exact ⟨[] :: others, last, rfl, rfl⟩
      · cases others with
        | nil => exact ⟨[], item :: last, rfl, rfl⟩
        | cons first others => exact ⟨(item :: first) :: others, last, rfl, rfl⟩

end Parts

section Case

/-- A reading of characters that takes no notice of the case of ASCII letters. -/
theorem apply_toLower {Result : Type} (read : Char → Result)
    (values : ∀ value < 128, read (Char.ofNat value).toLower = read (Char.ofNat value))
    (char : Char) : read char.toLower = read char := by
  by_cases ascii : char.toNat < 128
  · have checked := values char.toNat ascii
    rwa [Char.ofNat_toNat] at checked
  · rw [Utf8.toLower_of_not_ascii (Nat.le_of_not_lt ascii)]

theorem isBlank_toLower (char : Char) : isBlank char.toLower = isBlank char :=
  apply_toLower isBlank (by decide +kernel) char

theorem isComma_toLower (char : Char) : (char.toLower == ',') = (char == ',') :=
  apply_toLower (· == ',') (by decide +kernel) char

theorem toLower_toLower (char : Char) : char.toLower.toLower = char.toLower :=
  apply_toLower Char.toLower (by decide +kernel) char

end Case

end Text

variable {first second left right : List Char}

section Join

theorem noComma_of_blank {blanks : List Char} (blank : ∀ char ∈ blanks, Text.isBlank char = true) :
    ∀ char ∈ blanks, (char == ',') = false := by
  intro char isIn
  have isBlank := blank char isIn
  cases comma : char == ',' with
  | false => rfl
  | true =>
      rw [beq_iff_eq.mp comma] at isBlank
      revert isBlank
      decide

theorem listElements_join (first second : List Char)
    (leftBlank : ∀ char ∈ left, Text.isBlank char = true)
    (rightBlank : ∀ char ∈ right, Text.isBlank char = true) :
    listElements (first ++ left ++ ',' :: (right ++ second)) =
      listElements first ++ listElements second := by
  rcases Text.exists_split_append_right (noComma_of_blank leftBlank) first with
    ⟨others, last, firstParts, firstExtended⟩
  rcases Text.exists_split_append_left (noComma_of_blank rightBlank) second with
    ⟨next, more, secondParts, secondExtended⟩
  have lastTrimmed := Text.trim_append_blanks last (List.forall_mem_nil _) leftBlank
  have nextTrimmed := Text.trim_append_blanks next rightBlank (List.forall_mem_nil _)
  simp only [List.nil_append, List.append_nil] at lastTrimmed nextTrimmed
  simp only [listElements, Text.split_append_cons (· == ',') (beq_self_eq_true ',') _ _,
    firstParts, firstExtended, secondParts, secondExtended, List.map_append, List.map_cons,
    List.map_nil, lastTrimmed, nextTrimmed]

theorem codingsOf_join (firstNotBlank : first.all Text.isBlank = false)
    (secondNotBlank : second.all Text.isBlank = false)
    (leftBlank : ∀ char ∈ left, Text.isBlank char = true)
    (rightBlank : ∀ char ∈ right, Text.isBlank char = true) :
    codingsOf (first ++ left ++ ',' :: (right ++ second)) =
      codingsOf first ++ codingsOf second := by
  have notBlank : (first ++ left ++ ',' :: (right ++ second)).all Text.isBlank = false := by
    simp [firstNotBlank]
  simp only [codingsOf, notBlank, firstNotBlank, secondNotBlank,
    listElements_join first second leftBlank rightBlank, List.filter_append, List.map_append]
  rfl

-- A blank part names nothing inside a list, and an unknown coding on its own.
example : codingsOf ['x', ','] ≠ codingsOf ['x'] ++ codingsOf [] := by decide +kernel

end Join

section Case

theorem Coding.ofName_map_toLower (name : List Char) :
    ofName (name.map Char.toLower) = ofName name := by
  simp only [ofName, List.map_map, Function.comp_def, Text.toLower_toLower]

theorem listElements_map_toLower (value : List Char) :
    listElements (value.map Char.toLower) =
      (listElements value).map (·.map Char.toLower) := by
  simp only [listElements, Text.split_map (· == ',') Text.isComma_toLower, List.map_map,
    Function.comp_def, Text.trim_map Text.isBlank_toLower]

theorem codingsOf_map_toLower (value : List Char) :
    codingsOf (value.map Char.toLower) = codingsOf value := by
  simp only [codingsOf, listElements_map_toLower, List.all_map, Function.comp_def,
    Text.isBlank_toLower, List.filter_map, List.isEmpty_map, List.map_map,
    Coding.ofName_map_toLower]

end Case

end HttpRelay
