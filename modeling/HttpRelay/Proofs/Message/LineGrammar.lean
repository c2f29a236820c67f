import Mathlib.Data.List.DropRight
import HttpRelay.Message.Field
import HttpRelay.Message.StartLine
import HttpRelay.Proofs.Message.Lines
import HttpRelay.Proofs.Text.Ascii

/-!
# The grammar of header lines

A start line and a field line, given by the parts that they are made of and not by a way of
cutting them up. The checks of the two kinds of line accept exactly these.
-/

namespace HttpRelay

namespace Text

section Trim

variable {Item : Type} {isBlank : Item → Bool} {text value : List Item}

theorem trim_eq_iff :
    trim isBlank text = value ↔
      (∃ left right, text = left ++ value ++ right ∧ (∀ item ∈ left, isBlank item = true) ∧
        ∀ item ∈ right, isBlank item = true) ∧
        (∀ item ∈ value.head?, isBlank item = false) ∧
        ∀ item ∈ value.getLast?, isBlank item = false := by
  have trimEq : trim isBlank text = (text.dropWhile isBlank).rdropWhile isBlank := rfl
  simp only [trimEq]
  constructor
  · rintro rfl
    refine ⟨⟨text.takeWhile isBlank, (text.dropWhile isBlank).rtakeWhile isBlank, ?_, ?_, ?_⟩,
      ?_, ?_⟩
    · rw [List.append_assoc, List.rdropWhile_append_rtakeWhile, List.takeWhile_append_dropWhile]
    · exact fun item isIn => List.mem_takeWhile_imp isIn
    · exact fun item isIn => List.mem_rtakeWhile_imp isIn
    · intro item isFirst
      rcases List.head?_eq_some_iff.mp isFirst with ⟨others, trimmed⟩
      have isPrefix := List.rdropWhile_prefix isBlank (text.dropWhile isBlank)
      simp only [trimmed] at isPrefix
      rcases isPrefix with ⟨behind, dropped⟩
      have first := List.head?_dropWhile_not isBlank text
      rw [← dropped] at first
      exact first
    · intro item isLast
      have nonempty : (text.dropWhile isBlank).rdropWhile isBlank ≠ [] := by
        intro empty
        simp [empty] at isLast
      have last := List.rdropWhile_last_not isBlank _ nonempty
      simp only [List.getLast?_eq_getLast_of_ne_nil nonempty] at isLast
      simpa [Option.mem_some.mp isLast] using last
  · rintro ⟨⟨left, right, rfl, leftBlank, rightBlank⟩, first, last⟩
    simp only [List.append_assoc, List.dropWhile_append_of_pos leftBlank]
    cases value with
    | nil => simp [List.dropWhile_eq_nil_iff.mpr rightBlank]
    | cons item value =>
        have notBlank : isBlank item = false := first item rfl
        have dropped : (item :: value ++ right).dropWhile isBlank = item :: value ++ right := by
          simp [notBlank]
        have kept : (item :: value).rdropWhile isBlank = item :: value := by
          apply List.rdropWhile_eq_self_iff.mpr
          intro nonempty
          simp [last _ (List.getLast?_eq_getLast_of_ne_nil nonempty)]
        have blank : ∀ item ∈ right.reverse, isBlank item = true := by simpa using rightBlank
        rw [dropped, List.rdropWhile, List.reverse_append, List.dropWhile_append_of_pos blank]
        exact kept

end Trim

end Text

namespace StartLine

variable {line : Bytes}

/-- A method, a target, and a version, with a space between neighbours and no other. -/
def IsRequest (line : Bytes) : Prop :=
  ∃ method target version, line = method ++ Bytes.space :: (target ++ Bytes.space :: version) ∧
    method ≠ [] ∧ (∀ byte ∈ method, Bytes.isToken byte = true) ∧
    target ≠ [] ∧ Bytes.space ∉ target ∧ Bytes.space ∉ version ∧ versionMark <+: version

/-- A version, a space, three digits, and then the end or a space and anything. -/
def IsStatus (line : Bytes) : Prop :=
  ∃ version code rest, line = version ++ Bytes.space :: (code ++ rest) ∧
    Bytes.space ∉ version ∧ versionMark <+: version ∧
    code.length = 3 ∧ (∀ byte ∈ code, Bytes.isDigit byte = true) ∧
    (rest = [] ∨ ∃ reason, rest = Bytes.space :: reason)

def HasForm : Kind → Bytes → Prop
  | .request, line => IsRequest line
  | .response, line => IsStatus line

/-- A start line that is text and has the shape of its direction. -/
def IsWellFormed (kind : Kind) (line : Bytes) : Prop :=
  Utf8.IsText line ∧ HasForm kind line

theorem space_notMem_of_token {name : Bytes} (token : ∀ byte ∈ name, Bytes.isToken byte = true) :
    Bytes.space ∉ name := by
  intro isIn
  have isToken := token _ isIn
  revert isToken
  decide

theorem isRequestLine_iff : isRequestLine line = true ↔ IsRequest line := by
  simp only [isRequestLine]
  constructor
  · intro shape
    rcases Text.notMem_or_exists_first Bytes.space line with
      notIn | ⟨method, rest, noSpace, rfl⟩
    · simp [Text.split_of_notMem notIn] at shape
    simp only [Text.split_first noSpace] at shape
    rcases Text.notMem_or_exists_first Bytes.space rest with
      notIn | ⟨target, rest, targetNoSpace, rfl⟩
    · simp [Text.split_of_notMem notIn] at shape
    simp only [Text.split_first targetNoSpace] at shape
    rcases Text.notMem_or_exists_first Bytes.space rest with
      versionNoSpace | ⟨version, rest, versionNoSpace, rfl⟩
    · simp only [Text.split_of_notMem versionNoSpace, Bool.and_eq_true, Bool.not_eq_true',
        List.isEmpty_eq_false_iff, List.all_eq_true, isVersion, List.isPrefixOf_iff_prefix] at shape
      rcases shape with ⟨⟨⟨methodNonempty, token⟩, targetNonempty⟩, version⟩
      exact ⟨method, target, rest, rfl, methodNonempty, token, targetNonempty, targetNoSpace,
        versionNoSpace, version⟩
    · simp only [Text.split_first versionNoSpace] at shape
      cases others : Text.split (· == Bytes.space) rest with
      | nil => exact absurd others (Text.split_ne_nil _ _)
      | cons fourth others => simp [others] at shape
  · rintro ⟨method, target, version, rfl, methodNonempty, token, targetNonempty, targetNoSpace,
      versionNoSpace, isVersion⟩
    rw [Text.split_first (space_notMem_of_token token), Text.split_first targetNoSpace,
      Text.split_of_notMem versionNoSpace]
    simpa [methodNonempty, targetNonempty, StartLine.isVersion, isVersion] using token

theorem isStatusLine_iff : isStatusLine line = true ↔ IsStatus line := by
  simp only [isStatusLine]
  constructor
  · intro shape
    rcases Text.notMem_or_exists_first Bytes.space line with
      notIn | ⟨version, rest, noSpace, rfl⟩
    · simp [Text.split_of_notMem notIn] at shape
    simp only [Text.split_first noSpace] at shape
    rcases Text.notMem_or_exists_first Bytes.space rest with
      codeNoSpace | ⟨code, reason, codeNoSpace, rfl⟩
    · simp only [Text.split_of_notMem codeNoSpace, Bool.and_eq_true, beq_iff_eq, List.all_eq_true,
        isVersion, List.isPrefixOf_iff_prefix] at shape
      rcases shape with ⟨⟨version, three⟩, digits⟩
      exact ⟨_, rest, [], by simp, noSpace, version, three, digits, Or.inl rfl⟩
    · simp only [Text.split_first codeNoSpace, Bool.and_eq_true, beq_iff_eq, List.all_eq_true,
        isVersion, List.isPrefixOf_iff_prefix] at shape
      rcases shape with ⟨⟨version, three⟩, digits⟩
      exact ⟨_, code, _, rfl, noSpace, version, three, digits, Or.inr ⟨reason, rfl⟩⟩
  · rintro ⟨version, code, rest, rfl, noSpace, isVersion, three, digits, ended⟩
    have codeNoSpace : Bytes.space ∉ code := by
      intro isIn
      have isDigit := digits _ isIn
      revert isDigit
      decide
    simp only [Text.split_first noSpace]
    rcases ended with rfl | ⟨reason, rfl⟩
    · simp only [List.append_nil, Text.split_of_notMem codeNoSpace]
      simpa [StartLine.isVersion, isVersion, three] using digits
    · simp only [Text.split_first codeNoSpace]
      simpa [StartLine.isVersion, isVersion, three] using digits

theorem hasShape_iff {kind : Kind} : hasShape kind line = true ↔ HasForm kind line := by
  cases kind with
  | request => exact isRequestLine_iff
  | response => exact isStatusLine_iff

theorem defect?_eq_none_iff {kind : Kind} : defect? kind line = none ↔ IsWellFormed kind line := by
  rw [defect?, IsWellFormed, ← hasShape_iff, Utf8.isText_iff]
  cases Utf8.decode? line with
  | none => simp
  | some text => simp

end StartLine

namespace Field

variable {field : Field} {line : Bytes}

/-- The line of a field: its name in any case, a colon, and its value between blanks. -/
def IsLine (field : Field) (line : Bytes) : Prop :=
  ∃ name left right, line = name ++ Bytes.colon :: (left ++ field.value ++ right) ∧
    name ≠ [] ∧ (∀ byte ∈ name, Bytes.isToken byte = true) ∧ field.name = name.map Bytes.lower ∧
    (∀ byte ∈ left, Bytes.isBlank byte = true) ∧ (∀ byte ∈ right, Bytes.isBlank byte = true) ∧
    (∀ byte ∈ field.value.head?, Bytes.isBlank byte = false) ∧
    ∀ byte ∈ field.value.getLast?, Bytes.isBlank byte = false

theorem isBlank_of_token {byte : UInt8} (token : Bytes.isToken byte = true) :
    Bytes.isBlank byte = false := by
  cases blank : Bytes.isBlank byte with
  | false => rfl
  | true =>
      simp only [Bytes.isBlank, Bool.or_eq_true, beq_iff_eq] at blank
      rcases blank with rfl | rfl <;> revert token <;> decide

theorem colon_notMem_of_token {name : Bytes} (token : ∀ byte ∈ name, Bytes.isToken byte = true) :
    Bytes.colon ∉ name := by
  intro isIn
  have isToken := token _ isIn
  revert isToken
  decide

theorem not_isLine_nil : ¬field.IsLine [] := by
  rintro ⟨name, left, right, lineEq, _⟩
  simp at lineEq

theorem isLine_append_iff {name value : Bytes} (noColon : Bytes.colon ∉ name) :
    field.IsLine (name ++ Bytes.colon :: value) ↔
      (name ≠ [] ∧ ∀ byte ∈ name, Bytes.isToken byte = true) ∧
        ⟨name.map Bytes.lower, Text.trim Bytes.isBlank value⟩ = field := by
  constructor
  · rintro ⟨_, left, right, lineEq, nonempty, token, nameEq, leftBlank, rightBlank, first, last⟩
    rcases (Text.append_separator_inj noColon (colon_notMem_of_token token)).mp lineEq with
      ⟨rfl, rfl⟩
    have trimmed : Text.trim Bytes.isBlank (left ++ field.value ++ right) = field.value :=
      Text.trim_eq_iff.mpr ⟨⟨left, right, rfl, leftBlank, rightBlank⟩, first, last⟩
    rw [trimmed, ← nameEq]
    exact ⟨⟨nonempty, token⟩, rfl⟩
  · rintro ⟨⟨nonempty, token⟩, rfl⟩
    rcases Text.trim_eq_iff.mp (rfl : Text.trim Bytes.isBlank value = _) with
      ⟨⟨left, right, valueEq, leftBlank, rightBlank⟩, first, last⟩
    exact ⟨name, left, right, by rw [← valueEq], nonempty, token, rfl, leftBlank, rightBlank,
      first, last⟩

theorem ofLine_eq_ok_iff : ofLine line = .ok field ↔ field.IsLine line := by
  rcases Text.notMem_or_exists_first Bytes.colon line with noColon | ⟨name, value, noColon, rfl⟩
  · have others : ∀ byte ∈ line, (byte != Bytes.colon) = true := by
      intro byte isIn
      apply bne_iff_ne.mpr
      rintro rfl
      exact noColon isIn
    simp only [ofLine, List.dropWhile_eq_nil_iff.mpr others]
    constructor
    · intro read
      split at read <;> cases read
    · rintro ⟨name, left, right, rfl, _⟩
      simp at noColon
  · have others : ∀ byte ∈ name, (byte != Bytes.colon) = true := by
      intro byte isIn
      apply bne_iff_ne.mpr
      rintro rfl
      exact noColon isIn
    have before : (name ++ Bytes.colon :: value).takeWhile (· != Bytes.colon) = name := by
      simp [List.takeWhile_append_of_pos others]
    have behind : (name ++ Bytes.colon :: value).dropWhile (· != Bytes.colon) =
        Bytes.colon :: value := by
      simp [List.dropWhile_append_of_pos others]
    simp only [isLine_append_iff noColon, ofLine, before, behind]
    by_cases named : name ≠ [] ∧ ∀ byte ∈ name, Bytes.isToken byte = true
    · rcases List.exists_cons_of_ne_nil named.1 with ⟨first, rest, rfl⟩
      have notBlank : (first :: rest ++ Bytes.colon :: value).head?.any Bytes.isBlank = false :=
        isBlank_of_token (named.2 first List.mem_cons_self)
      have wellNamed : ((first :: rest).isEmpty || !(first :: rest).all Bytes.isToken) = false := by
        simp only [List.all_eq_true.mpr named.2]
        rfl
      simp only [notBlank, wellNamed, Bool.false_eq_true, if_false, Except.ok.injEq]
      exact (and_iff_right named).symm
    · have badlyNamed : (name.isEmpty || !name.all Bytes.isToken) = true := by
        simpa [← List.all_eq_true, imp_iff_not_or] using named
      simp only [badlyNamed, if_true]
      constructor
      · intro read
        split at read <;> cases read
      · exact fun isLine => absurd isLine.1 named

end Field

end HttpRelay
