import Mathlib.Data.List.Dedup
import HttpRelay.Proofs.Message.Reencoding
import HttpRelay.Proofs.Message.SameClaims

/-!
# Lists as the next reader has them

Whoever gets a message next reads the forwarded lists in the syntax of the message format itself:
octets between commas, with nothing but spaces and tabulators around them, where no other coding
than the two known ones is recognised and a length is made of ASCII digits. The receiver has read
the same lists as text, and took all blanks of the White_Space property off their elements.

The next reader comes to the same framing exactly if the elements have no other blanks around them
than spaces and tabulators. If one has, that reader rejects the header (`framing?_eq_iff`), although
it was accepted and forwarded with a framing. It never comes to another framing.
-/

namespace HttpRelay

namespace ListSyntax

/-- The elements of a list, without the spaces and tabulators around them. -/
def elements (value : Bytes) : List Bytes :=
  (Text.split (· == Bytes.comma) value).map (Text.trim Bytes.isBlank)

/-- The coding of a given name, with letters in any case, if it is recognised. -/
def coding? (name : Bytes) : Option Coding :=
  if name.map Bytes.lower = Bytes.ofChars ['i', 'd', 'e', 'n', 't', 'i', 't', 'y'] then
    some .identity
  else if name.map Bytes.lower = Bytes.ofChars ['c', 'h', 'u', 'n', 'k', 'e', 'd'] then
    some .chunked
  else none

/-- The number that ASCII digits stand for. -/
def length? (element : Bytes) : Option Nat :=
  if element.isEmpty || !element.all Bytes.isDigit then none
  else some (Text.ofDigits 10 (element.map fun digit => digit.toNat - 0x30))

/-- The codings that `transfer-encoding` values name. Empty elements are skipped. -/
def codings? (values : List Bytes) : Option (List Coding) :=
  ((values.flatMap elements).filter (!·.isEmpty)).mapM coding?

/-- The lengths that `content-length` values give. -/
def lengths? (values : List Bytes) : Option (List Nat) :=
  (values.flatMap elements).mapM length?

/-- The framing that follows from codings and lengths, of which the latter have to agree. -/
def framingOf? (codings : List Coding) (lengths : List Nat) : Option Framing :=
  match codings.filter (· != .identity), lengths.dedup with
  | [], [] => some .empty
  | [], [count] => some (.length count)
  | [.chunked], [] | [.chunked], [_] => some .chunked
  | _, _ => none

/-- The framing that the next reader takes from a header, unless it rejects it. -/
def framing? (header : Header) : Option Framing :=
  (codings? (header.values Field.transferEncoding)).bind fun codings =>
    (lengths? (header.values Field.contentLength)).bind fun lengths =>
      framingOf? codings lengths

/-- An element that neither begins nor ends with a blank. Spaces and tabulators were taken off
before, so this is about all other characters with the White_Space property. -/
def IsPlain (element : Bytes) : Prop :=
  ∀ text, Utf8.decode? element = some text → Text.trim Text.isBlank text = text

/-- Elements of lists that have nothing but spaces and tabulators around them. -/
def ArePlain (values : List Bytes) : Prop :=
  ∀ element ∈ values.flatMap elements, IsPlain element

/-- An element of octets, and what the reading of the text has in its place. -/
def Reads (element : Bytes) (part : List Char) : Prop :=
  ∃ text, Utf8.decode? element = some text ∧ Text.trim Text.isBlank text = part

variable {bytes value element name : Bytes} {text part : List Char} {values elements : List Bytes}
  {texts parts : List (List Char)} {count : Nat}

section Elements

theorem comma_notMem (decoded : Utf8.decode? bytes = some text) (notIn : Bytes.comma ∉ bytes) :
    ',' ∉ text := by
  intro isIn
  apply notIn
  rw [← Utf8.decode?_eq_some_iff.mp decoded]
  exact List.mem_flatMap.mpr ⟨',', isIn, List.mem_singleton.mpr rfl⟩

/-- A list is cut at the same commas before it is read as text and behind that. -/
theorem forall₂_split {value : Bytes} {text : List Char}
    (decoded : Utf8.decode? value = some text) :
    List.Forall₂ (fun part chars => Utf8.decode? part = some chars)
      (Text.split (· == Bytes.comma) value) (Text.split (· == ',') text) := by
  rcases Text.notMem_or_exists_first Bytes.comma value with notIn | ⟨first, rest, notIn, rfl⟩
  · rw [Text.split_of_notMem notIn, Text.split_of_notMem (comma_notMem decoded notIn)]
    exact .cons decoded .nil
  · have ascii : Bytes.comma.toNat < 128 := by decide
    simp only [Utf8.decode?_append_cons ascii, Option.bind_eq_some_iff,
      Option.map_eq_some_iff] at decoded
    rcases decoded with ⟨before, firstText, after, restText, rfl⟩
    have comma : Char.ofNat Bytes.comma.toNat = ',' := rfl
    rw [comma, Text.split_first notIn, Text.split_first (comma_notMem firstText notIn)]
    exact .cons firstText (forall₂_split restText)
termination_by value.length
decreasing_by
  subst value
  simp only [List.length_append, List.length_cons]
  omega

theorem reads_trim (decoded : Utf8.decode? bytes = some text) :
    Reads (Text.trim Bytes.isBlank bytes) (Text.trim Text.isBlank text) := by
  rcases Text.trim_eq_iff.mp (rfl : Text.trim Bytes.isBlank bytes = _) with
    ⟨⟨left, right, bytesEq, leftBlank, rightBlank⟩, _, _⟩
  generalize Text.trim Bytes.isBlank bytes = inner at bytesEq
  subst bytesEq
  rw [Utf8.decode?_append_ascii fun byte isIn => Bytes.ascii_of_isBlank (rightBlank byte isIn),
    Utf8.decode?_ascii_append fun byte isIn => Bytes.ascii_of_isBlank (leftBlank byte isIn),
    Option.map_map, Option.map_eq_some_iff] at decoded
  rcases decoded with ⟨innerText, innerDecoded, rfl⟩
  have trimmed := Text.trim_append_blanks innerText (Field.isBlank_toChars leftBlank)
    (Field.isBlank_toChars rightBlank)
  exact ⟨innerText, innerDecoded, trimmed.symm⟩

theorem forall₂_elements (decoded : Utf8.decode? value = some text) :
    List.Forall₂ Reads (ListSyntax.elements value) (listElements text) := by
  rw [ListSyntax.elements, listElements, List.forall₂_map_left_iff, List.forall₂_map_right_iff]
  exact (forall₂_split decoded).imp fun _ _ => reads_trim

theorem forall₂_flatMap_elements
    (decoded : List.Forall₂ (fun value text => Utf8.decode? value = some text) values texts) :
    List.Forall₂ Reads (values.flatMap ListSyntax.elements) (texts.flatMap listElements) :=
  List.rel_flatMap decoded fun _ _ => forall₂_elements

end Elements

section Trimmed

theorem trim_of_notBlank (notBlank : ∀ char ∈ text, Text.isBlank char = false) :
    Text.trim Text.isBlank text = text := by
  apply Text.trim_eq_iff.mpr
  refine ⟨⟨[], [], by simp, List.forall_mem_nil _, List.forall_mem_nil _⟩, ?_, ?_⟩
  · exact fun char isFirst => notBlank char (List.mem_of_mem_head? isFirst)
  · exact fun char isLast => notBlank char (List.mem_of_mem_getLast? isLast)

/-- A name of a known coding has no blanks around it. -/
theorem trim_of_ofName (known : Coding.ofName text ≠ .unknown) :
    Text.trim Text.isBlank text = text := by
  have letters : (text.map Char.toLower).any Text.isBlank = false := by
    simp only [Coding.ofName] at known
    split at known
    · rename_i isIdentity
      rw [isIdentity]
      decide
    · split at known
      · rename_i isChunked
        rw [isChunked]
        decide
      · exact absurd rfl known
  apply trim_of_notBlank
  intro char isIn
  rw [← Text.isBlank_toLower, ← Bool.not_eq_true]
  exact List.any_eq_false.mp letters _ (List.mem_map_of_mem isIn)

theorem ascii_of_isDigit {char : Char} (isDigit : char.isDigit = true) : char.toNat < 128 := by
  simp only [Char.isDigit, Bool.and_eq_true, decide_eq_true_eq] at isDigit
  have below : char.toNat ≤ '9'.toNat := UInt32.le_iff_toNat_le.mp isDigit.2
  have nine : '9'.toNat = 57 := rfl
  omega

theorem isBlank_of_isDigit {char : Char} (isDigit : char.isDigit = true) :
    Text.isBlank char = false := by
  have values : ∀ value < 128, (Char.ofNat value).isDigit = true →
      Text.isBlank (Char.ofNat value) = false := by decide +kernel
  have checked := values char.toNat (ascii_of_isDigit isDigit)
  rw [Char.ofNat_toNat] at checked
  exact checked isDigit

/-- A numeral has no blanks around it. -/
theorem trim_of_numeral? (numeral : Text.numeral? 10 text = some count) :
    Text.trim Text.isBlank text = text := by
  rw [Text.numeral?_ten] at numeral
  split at numeral
  · cases numeral
  · rename_i digits
    simp only [Bool.or_eq_true, Bool.not_eq_true', not_or, Bool.not_eq_false,
      List.all_eq_true] at digits
    apply trim_of_notBlank
    intro char isIn
    exact isBlank_of_isDigit (digits.2 char isIn)

end Trimmed

section Codings

theorem map_lower_eq_iff (decoded : Utf8.decode? name = some text) (word : List Char)
    (ascii : Utf8.decode? (Bytes.ofChars word) = some word) :
    name.map Bytes.lower = Bytes.ofChars word ↔ text.map Char.toLower = word := by
  have lowered := Utf8.decode?_map_lower name
  rw [decoded, Option.map_some] at lowered
  constructor
  · intro same
    rw [same, ascii] at lowered
    exact (Option.some.inj lowered).symm
  · intro same
    rw [same] at lowered
    exact (Utf8.decode?_eq_some_iff.mp lowered).symm.trans (Utf8.decode?_eq_some_iff.mp ascii)

/-- Both readings of the name of a coding agree. -/
theorem coding?_eq (decoded : Utf8.decode? name = some text) :
    coding? name = if Coding.ofName text = .unknown then none else some (Coding.ofName text) := by
  simp only [coding?, Coding.ofName,
    map_lower_eq_iff decoded ['i', 'd', 'e', 'n', 't', 'i', 't', 'y'] rfl,
    map_lower_eq_iff decoded ['c', 'h', 'u', 'n', 'k', 'e', 'd'] rfl]
  split
  · rfl
  · split <;> rfl

end Codings

section Lengths

theorem isDigit_ofNat {byte : UInt8} (ascii : byte.toNat < 128) :
    (Char.ofNat byte.toNat).isDigit = Bytes.isDigit byte := by
  apply @Bytes.induction_of_lt
    (fun byte => (Char.ofNat byte.toNat).isDigit = Bytes.isDigit byte) 128 _ byte ascii
  decide +kernel

theorem ascii_of_isDigitByte {byte : UInt8} (isDigit : Bytes.isDigit byte = true) :
    byte.toNat < 128 := by
  simp only [Bytes.isDigit, Bool.and_eq_true, decide_eq_true_eq,
    UInt8.le_iff_toNat_le] at isDigit
  have nine : (0x39 : UInt8).toNat = 57 := rfl
  omega

/-- Both readings of a length agree. -/
theorem length?_eq (decoded : Utf8.decode? element = some text) :
    length? element = Text.numeral? 10 text := by
  rw [length?, Text.numeral?_ten]
  by_cases ascii : ∀ byte ∈ element, byte.toNat < 128
  · rw [Utf8.decode?_of_ascii ascii] at decoded
    cases decoded
    have empty : element.toChars.isEmpty = element.isEmpty := by
      cases element <;> rfl
    have digits : element.toChars.all Char.isDigit = element.all Bytes.isDigit := by
      rw [Bytes.toChars, List.all_map, Bool.eq_iff_iff, List.all_eq_true, List.all_eq_true]
      apply forall₂_congr
      intro byte isIn
      rw [Function.comp_apply, isDigit_ofNat (ascii byte isIn)]
    have values : element.toChars.map (fun char => char.toNat - '0'.toNat) =
        element.map fun digit => digit.toNat - 0x30 := by
      rw [Bytes.toChars, List.map_map]
      apply List.map_congr_left
      intro byte isIn
      have low := ascii byte isIn
      have value : (Char.ofNat byte.toNat).toNat = byte.toNat :=
        Utf8.toNat_ofNat (Or.inl (by omega))
      rw [Function.comp_apply, value]
      rfl
    rw [empty, digits, values]
  · -- What is not ASCII is a digit in neither reading.
    have notDigits : element.all Bytes.isDigit = false := by
      rw [Bool.eq_false_iff, ne_eq, List.all_eq_true]
      intro digits
      exact ascii fun byte isIn => ascii_of_isDigitByte (digits byte isIn)
    have textNotDigits : text.all Char.isDigit = false := by
      rw [Bool.eq_false_iff, ne_eq, List.all_eq_true]
      intro digits
      exact ascii (Utf8.ascii_of_decode? decoded fun char isIn =>
        ascii_of_isDigit (digits char isIn)).1
    rw [notDigits, textNotDigits, Bool.not_false, Bool.or_true, Bool.or_true]
    rfl

end Lengths

section Plain

theorem not_isPlain_iff :
    ¬IsPlain element ↔
      ∃ text, Utf8.decode? element = some text ∧ Text.trim Text.isBlank text ≠ text := by
  simp only [IsPlain, not_forall, exists_prop, ne_eq]

theorem isPlain_nil : IsPlain [] := by
  rintro text ⟨⟩
  rfl

/-- What the reading of the text has in the place of a plain element is the element itself. -/
theorem Reads.decode?_of_isPlain (reads : Reads element part) (plain : IsPlain element) :
    Utf8.decode? element = some part := by
  rcases reads with ⟨text, decoded, rfl⟩
  rw [plain text decoded]
  exact decoded

theorem coding?_of_not_isPlain (notPlain : ¬IsPlain element) : coding? element = none := by
  rcases not_isPlain_iff.mp notPlain with ⟨text, decoded, notTrimmed⟩
  rw [coding?_eq decoded, if_pos]
  by_contra known
  exact notTrimmed (trim_of_ofName known)

theorem length?_of_not_isPlain (notPlain : ¬IsPlain element) : length? element = none := by
  rcases not_isPlain_iff.mp notPlain with ⟨text, decoded, notTrimmed⟩
  rw [length?_eq decoded, Option.eq_none_iff_forall_ne_some]
  intro count numeral
  exact notTrimmed (trim_of_numeral? numeral)

end Plain

section Lists

variable {Item Result : Type} {read : Item → Option Result} {items : List Item}

theorem mapM_eq_none {item : Item} (isIn : item ∈ items) (unread : read item = none) :
    items.mapM read = none := by
  induction items with
  | nil => cases isIn
  | cons first items ih =>
      rw [List.mapM_cons]
      rcases List.mem_cons.mp isIn with rfl | isIn
      · rw [unread]
        rfl
      · rw [ih isIn]
        cases read first <;> rfl

theorem mapM_cons_of_some {item : Item} {result : Result} {results : List Result}
    (first : read item = some result) (others : items.mapM read = some results) :
    (item :: items).mapM read = some (result :: results) := by
  rw [List.mapM_cons, first, others]
  rfl

theorem isEmpty_eq (decoded : Utf8.decode? element = some text) :
    element.isEmpty = text.isEmpty := by
  cases element with
  | nil =>
      cases decoded
      rfl
  | cons byte element =>
      cases text with
      | nil => cases Utf8.decode?_eq_some_iff.mp decoded
      | cons char text => rfl

/-- The codings of plain elements are those that were read from the text. -/
theorem mapM_coding? (reads : List.Forall₂ Reads elements parts)
    (known : ∀ part ∈ parts, part ≠ [] → Coding.ofName part ≠ .unknown)
    (plain : ∀ element ∈ elements, IsPlain element) :
    (elements.filter (!·.isEmpty)).mapM coding? =
      some ((parts.filter (!·.isEmpty)).map Coding.ofName) := by
  induction reads with
  | nil => rfl
  | @cons element part elements parts reads _ ih =>
      rcases List.forall_mem_cons.mp known with ⟨firstKnown, othersKnown⟩
      rcases List.forall_mem_cons.mp plain with ⟨firstPlain, othersPlain⟩
      have decoded := reads.decode?_of_isPlain firstPlain
      have others := ih othersKnown othersPlain
      rw [List.filter_cons, List.filter_cons, isEmpty_eq decoded]
      cases empty : part.isEmpty with
      | true => exact others
      | false =>
          have nonempty : part ≠ [] := List.isEmpty_eq_false_iff.mp empty
          have first := coding?_eq decoded
          rw [if_neg (firstKnown nonempty)] at first
          exact mapM_cons_of_some first others

/-- The lengths of plain elements are those that were read from the text. -/
theorem mapM_length? (reads : List.Forall₂ Reads elements parts)
    (agree : ∀ part ∈ parts, Text.numeral? 10 part = some count)
    (plain : ∀ element ∈ elements, IsPlain element) :
    elements.mapM length? = some (List.replicate parts.length count) := by
  induction reads with
  | nil => rfl
  | cons reads _ ih =>
      rcases List.forall_mem_cons.mp agree with ⟨firstLength, othersAgree⟩
      rcases List.forall_mem_cons.mp plain with ⟨firstPlain, othersPlain⟩
      have first := length?_eq (reads.decode?_of_isPlain firstPlain)
      exact mapM_cons_of_some (first.trans firstLength) (ih othersAgree othersPlain)

theorem codings?_of_not_arePlain (notPlain : ¬ArePlain values) : codings? values = none := by
  simp only [ArePlain, not_forall] at notPlain
  rcases notPlain with ⟨element, isIn, notPlain⟩
  apply mapM_eq_none _ (coding?_of_not_isPlain notPlain)
  refine List.mem_filter.mpr ⟨isIn, ?_⟩
  rw [Bool.not_eq_true', List.isEmpty_eq_false_iff]
  rintro rfl
  exact notPlain isPlain_nil

theorem lengths?_of_not_arePlain (notPlain : ¬ArePlain values) : lengths? values = none := by
  simp only [ArePlain, not_forall] at notPlain
  rcases notPlain with ⟨element, isIn, notPlain⟩
  exact mapM_eq_none isIn (length?_of_not_isPlain notPlain)

end Lists

section Headers

variable {kind : Kind} {limits : Limits} {source : Source} {block : Bytes} {fields : List Field}
  {header : Header} {framing : Framing}

/-- The values of fields that have to be text, next to the texts. -/
theorem forall₂_textsOf (named : name = Field.transferEncoding ∨ name = Field.contentLength)
    (text : Field.AreText fields) :
    List.Forall₂ (fun value text => Utf8.decode? value = some text)
      ((fields.filter (·.name == name)).map (·.value)) (Field.textsOf name fields) := by
  induction fields with
  | nil => exact .nil
  | cons field fields ih =>
      rcases List.forall_mem_cons.mp text with ⟨first, others⟩
      by_cases isNamed : field.name = name
      · have isText := first (isNamed ▸ named)
        rcases Option.isSome_iff_exists.mp (Utf8.isText_iff.mp isText) with ⟨chars, decoded⟩
        have fieldText : field.text? = some chars := decoded
        simp only [Field.textsOf, List.filter_cons, isNamed, beq_self_eq_true, if_true,
          List.map_cons, List.filterMap_cons, fieldText]
        exact .cons decoded (ih others)
      · simp only [Field.textsOf, List.filter_cons, beq_eq_false_iff_ne.mpr isNamed,
          Bool.false_eq_true, if_false]
        exact ih others

/-- Codings of which none is unknown are those that the elements name. -/
theorem flatMap_codingsOf (known : Coding.unknown ∉ texts.flatMap codingsOf) :
    texts.flatMap codingsOf =
      ((texts.flatMap listElements).filter (!·.isEmpty)).map Coding.ofName := by
  induction texts with
  | nil => rfl
  | cons text texts ih =>
      rw [List.flatMap_cons, List.mem_append, not_or] at known
      rw [List.flatMap_cons, List.flatMap_cons, List.filter_append, List.map_append, ih known.2]
      have notBlank : text.all Text.isBlank = false := by
        by_contra blank
        rw [Bool.not_eq_false] at blank
        simp [codingsOf, blank] at known
      simp only [codingsOf, notBlank, Bool.false_eq_true, if_false, List.nil_append]

theorem unknown_notMem_of_frames (framed : Field.Frames fields framing) :
    Coding.unknown ∉ Field.codings fields := by
  intro isIn
  have isNamed : Coding.unknown ∈ Field.namedCodings fields :=
    List.mem_filter.mpr ⟨isIn, rfl⟩
  cases framing with
  | chunked =>
      rw [Field.Frames] at framed
      simp [framed] at isNamed
  | length count => simp [framed.1] at isNamed
  | empty => simp [framed.1] at isNamed

theorem framingOf?_of_frames (framed : Field.Frames fields framing)
    (agree : ∀ element ∈ Field.lengthElements fields, Text.numeral? 10 element = some count) :
    framingOf? (Field.codings fields)
      (List.replicate (Field.lengthElements fields).length count) = some framing := by
  have named : (Field.codings fields).filter (· != .identity) = Field.namedCodings fields := rfl
  rw [framingOf?, named]
  cases framing with
  | chunked =>
      rw [Field.Frames] at framed
      rw [framed]
      cases lengths : Field.lengthElements fields with
      | nil => rfl
      | cons first others =>
          have several : (first :: others).length ≠ 0 := Nat.succ_ne_zero _
          rw [List.replicate_dedup several]
  | length other =>
      rcases framed with ⟨noCodings, element, isIn, length⟩
      have same := agree element isIn
      rw [length] at same
      rw [noCodings, Option.some.inj same,
        List.replicate_dedup (Nat.ne_of_gt (List.length_pos_of_mem isIn))]
  | empty =>
      rcases framed with ⟨noCodings, noLengths⟩
      rw [noCodings, noLengths]
      rfl

/-- Lists of a header that have nothing but spaces and tabulators around their elements. -/
def HasPlainLists (header : Header) : Prop :=
  ArePlain (header.values Field.transferEncoding) ∧ ArePlain (header.values Field.contentLength)

/-- The next reader takes the same framing from fields that have plain lists. -/
theorem framing?_of_hasPlainLists (sound : Field.AreSound header.fields)
    (framed : Field.Frames header.fields header.framing) (plain : HasPlainLists header) :
    framing? header = some header.framing := by
  rcases sound.lengths with ⟨count, _, agree⟩
  have codingReads := forall₂_flatMap_elements (forall₂_textsOf (Or.inl rfl) sound.text)
  have lengthReads := forall₂_flatMap_elements (forall₂_textsOf (Or.inr rfl) sound.text)
  have noneUnknown := unknown_notMem_of_frames framed
  have codingsEq := flatMap_codingsOf noneUnknown
  have known : ∀ part ∈ (Field.textsOf Field.transferEncoding header.fields).flatMap listElements,
      part ≠ [] → Coding.ofName part ≠ .unknown := by
    intro part isIn nonempty isUnknown
    apply noneUnknown
    rw [Field.codings, codingsEq, ← isUnknown]
    refine List.mem_map_of_mem (List.mem_filter.mpr ⟨isIn, ?_⟩)
    rw [Bool.not_eq_true', List.isEmpty_eq_false_iff]
    exact nonempty
  have codings : codings? (header.values Field.transferEncoding) =
      some (Field.codings header.fields) := by
    rw [Field.codings, codingsEq]
    exact mapM_coding? codingReads known plain.1
  have lengths := mapM_length? lengthReads agree plain.2
  change lengths? (header.values Field.contentLength) = _ at lengths
  rw [framing?, codings, Option.bind_some, lengths, Option.bind_some]
  exact framingOf?_of_frames framed agree

theorem framing?_of_not_hasPlainLists (notPlain : ¬HasPlainLists header) :
    framing? header = none := by
  rw [framing?]
  by_cases codingsPlain : ArePlain (header.values Field.transferEncoding)
  · have lengthsNotPlain := fun lengthsPlain => notPlain ⟨codingsPlain, lengthsPlain⟩
    rw [lengths?_of_not_arePlain lengthsNotPlain]
    cases codings? (header.values Field.transferEncoding) <;> rfl
  · rw [codings?_of_not_arePlain codingsPlain]
    rfl

/-- The next reader takes the framing of the receiver from what is forwarded of a header exactly
if the lists are plain, and otherwise it rejects them. -/
theorem framing?_eq_iff
    (done : (Receiver.scanner.read (.start kind limits) source).outcome = .done header) :
    (framing? header = some header.framing ↔ HasPlainLists header) ∧
      (framing? header = none ↔ ¬HasPlainLists header) := by
  rcases ran : Receiver.scanner.read (.start kind limits) source with ⟨time, outcome, items⟩
  simp only [ran] at done
  rw [done] at ran
  rcases Receiver.read_start_eq_done_iff.mp ⟨time, items, ran, rfl⟩ with
    ⟨block, fields, _, accepts⟩
  have sound : Field.AreSound header.fields := by
    rw [accepts.forwarded]
    exact accepts.sound.forwarded
  have framed : Field.Frames header.fields header.framing := by
    rw [accepts.forwarded]
    exact Field.frames_forwarded_iff.mpr accepts.framed
  by_cases plain : HasPlainLists header
  · have same := framing?_of_hasPlainLists sound framed plain
    exact ⟨iff_of_true same plain, iff_of_false (by simp [same]) (not_not_intro plain)⟩
  · have rejected := framing?_of_not_hasPlainLists plain
    exact ⟨iff_of_false (by simp [rejected]) plain, iff_of_true rejected plain⟩

/-- A request whose body has the given codings, with a length that does not count. -/
def codedRequest (codings : Bytes) (receivedLength : Nat) : Header where
  startLine := Bytes.ofChars ['P', 'U', 'T', ' ', '/', ' ', 'H', 'T', 'T', 'P', '/', '1']
  fields := [⟨Field.transferEncoding, codings⟩, ⟨Field.contentLength, [0x30, 0x35]⟩]
  receivedLength := receivedLength
  framing := .chunked

/-- A tabulator around an element is no hindrance. -/
def tabulatedRequest : Header :=
  codedRequest (Bytes.ofChars [',', '\t', 'C', 'h', 'u', 'n', 'k', 'e', 'd']) 66

theorem framing?_eq_iff_tabulatedRequest :
    (Receiver.scanner.read (.start .request ⟨12, 2, 28, 1000⟩)
        (.ofSegments [tabulatedRequest.encode] .stalled)).outcome = .done tabulatedRequest ∧
      HasPlainLists tabulatedRequest ∧ framing? tabulatedRequest = some .chunked := by
  have done : (Receiver.scanner.read (.start .request ⟨12, 2, 28, 1000⟩)
      (.ofSegments [tabulatedRequest.encode] .stalled)).outcome = .done tabulatedRequest := rfl
  have framed : framing? tabulatedRequest = some .chunked := by decide +kernel
  exact ⟨done, (framing?_eq_iff done).1.mp framed, framed⟩

/-- With a no-break space in front, the coding is another one for the next reader. -/
def noBreakRequest : Header :=
  codedRequest ([0xC2, 0xA0] ++ Bytes.ofChars ['c', 'h', 'u', 'n', 'k', 'e', 'd']) 66

/-- A header that the next reader rejects is accepted, and forwarded with a framing. -/
theorem framing?_eq_none_noBreakRequest :
    (Receiver.scanner.read (.start .request ⟨12, 2, 28, 1000⟩)
        (.ofSegments [noBreakRequest.encode] .stalled)).outcome = .done noBreakRequest ∧
      noBreakRequest.framing = .chunked ∧ framing? noBreakRequest = none :=
  ⟨rfl, rfl, by decide +kernel⟩

end Headers

end ListSyntax

end HttpRelay
