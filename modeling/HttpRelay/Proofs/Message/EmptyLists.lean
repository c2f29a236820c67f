import HttpRelay.Proofs.Message.Layout

/-!
# Lists of codings that name nothing

A `transfer-encoding` value of nothing but blanks and commas names no coding. If it is all blank,
it stands for an unknown coding and the header is rejected; with a comma in it, it is ignored, so
the header is framed by its other fields alone (`HeaderBlock.read_start_of_emptyLists`).
-/

namespace HttpRelay

namespace Text

variable {Item : Type} {isSeparator : Item → Bool} {text part : List Item}

theorem of_mem_split (isPart : part ∈ split isSeparator text) :
    ∀ item ∈ part, item ∈ text ∧ isSeparator item = false := by
  induction text generalizing part with
  | nil =>
      rw [split_nil, List.mem_singleton] at isPart
      simp [isPart]
  | cons item text ih =>
      have later : ∀ part ∈ split isSeparator text, ∀ other ∈ part,
          other ∈ item :: text ∧ isSeparator other = false := by
        intro part isPart other isIn
        rcases ih isPart other isIn with ⟨inText, notSeparator⟩
        exact ⟨List.mem_cons_of_mem _ inText, notSeparator⟩
      rw [split] at isPart
      split at isPart
      · rcases List.mem_cons.mp isPart with rfl | isPart
        · simp
        · exact later part isPart
      · rename_i notSeparator
        rcases List.exists_cons_of_ne_nil (split_ne_nil isSeparator text) with
          ⟨first, others, parts⟩
        simp only [parts, extendFirst, List.mem_cons] at isPart
        simp only [parts, List.forall_mem_cons] at later
        rcases isPart with rfl | isPart
        · rw [List.forall_mem_cons]
          exact ⟨⟨List.mem_cons_self, Bool.not_eq_true _ ▸ notSeparator⟩, later.1⟩
        · exact later.2 part isPart

end Text

/-- What a list of nothing but blanks and commas names. -/
theorem codingsOf_of_empty {text : List Char}
    (empty : ∀ char ∈ text, Text.isBlank char = true ∨ char = ',') :
    codingsOf text = if text.all Text.isBlank then [.unknown] else [] := by
  have nothing : (listElements text).filter (!·.isEmpty) = [] := by
    apply List.filter_eq_nil_iff.mpr
    intro element isIn
    rcases List.mem_map.mp isIn with ⟨part, isPart, rfl⟩
    have blank : ∀ char ∈ part, Text.isBlank char = true := by
      intro char isIn
      rcases Text.of_mem_split isPart char isIn with ⟨inText, notComma⟩
      rcases empty char inText with blank | rfl
      · exact blank
      · cases notComma
    have trimmed : Text.trim Text.isBlank part = [] := by
      apply Text.trim_eq_iff.mpr
      exact ⟨⟨part, [], by simp, blank, List.forall_mem_nil _⟩, by simp, by simp⟩
    simp [trimmed]
  rw [codingsOf, nothing, List.map_nil, List.append_nil]

namespace Field

variable {field : Field} {fields : List Field} {framing : Framing}

/-- Whether a field is a list of codings that names none. -/
def hasEmptyList (field : Field) : Bool :=
  field.name == transferEncoding &&
    field.text?.any (·.all fun char => Text.isBlank char || char == ',')

/-- The fields that do not name an empty list of codings. -/
def withoutEmptyLists (fields : List Field) : List Field :=
  fields.filter (!·.hasEmptyList)

/-- The codings of a message whose body can be relayed. -/
def AreSupported (fields : List Field) : Prop :=
  namedCodings fields = [] ∨ namedCodings fields = [.chunked]

theorem named_of_hasEmptyList (empty : field.hasEmptyList = true) :
    named field = if field.isBlank then [.unknown] else [] := by
  rw [hasEmptyList, Bool.and_eq_true, beq_iff_eq] at empty
  rcases empty with ⟨isEncoding, empty⟩
  cases text : field.text? with
  | none => simp [text] at empty
  | some chars =>
      simp only [text, Option.any_some, List.all_eq_true, Bool.or_eq_true, beq_iff_eq] at empty
      simp only [named, isEncoding, if_true, text, Option.toList_some, List.flatMap_singleton,
        codingsOf_of_empty empty, isBlank, Option.any_some]
      split <;> rfl

theorem hasEmptyList_of_isBlank (isEncoding : field.name = transferEncoding)
    (blank : field.isBlank = true) : field.hasEmptyList = true := by
  cases text : field.text? with
  | none => simp [isBlank, text] at blank
  | some chars =>
      simp only [isBlank, text, Option.any_some, List.all_eq_true] at blank
      simp only [hasEmptyList, isEncoding, beq_self_eq_true, Bool.true_and, text, Option.any_some,
        List.all_eq_true, Bool.or_eq_true]
      exact fun char isIn => Or.inl (blank char isIn)

/-- A list that is all blank names a coding that is not known. -/
theorem unknown_mem_of_isBlank (isIn : field ∈ fields) (isEncoding : field.name = transferEncoding)
    (blank : field.isBlank = true) : Coding.unknown ∈ namedCodings fields := by
  rw [namedCodings_eq_flatMap]
  refine List.mem_flatMap.mpr ⟨field, isIn, ?_⟩
  rw [named_of_hasEmptyList (hasEmptyList_of_isBlank isEncoding blank), if_pos blank]
  exact List.mem_singleton_self _

/-- Empty lists with a comma in them add nothing to the codings. -/
theorem namedCodings_withoutEmptyLists
    (notBlank : ∀ field ∈ fields, field.name = transferEncoding → field.isBlank = false) :
    namedCodings (withoutEmptyLists fields) = namedCodings fields := by
  simp only [namedCodings_eq_flatMap, withoutEmptyLists]
  induction fields with
  | nil => rfl
  | cons field fields ih =>
      rcases List.forall_mem_cons.mp notBlank with ⟨first, others⟩
      rw [List.filter_cons, List.flatMap_cons, ← ih others]
      cases empty : field.hasEmptyList with
      | false => rfl
      | true =>
          have isEncoding : field.name = transferEncoding := by
            rw [hasEmptyList, Bool.and_eq_true, beq_iff_eq] at empty
            exact empty.1
          rw [named_of_hasEmptyList empty, first isEncoding]
          rfl

/-- An empty list gives no length. -/
theorem lengthElements_withoutEmptyLists (fields : List Field) :
    lengthElements (withoutEmptyLists fields) = lengthElements fields := by
  simp only [lengthElements_eq_flatMap, withoutEmptyLists]
  induction fields with
  | nil => rfl
  | cons field fields ih =>
      rw [List.filter_cons, List.flatMap_cons, ← ih]
      cases empty : field.hasEmptyList with
      | false => rfl
      | true =>
          rw [hasEmptyList, Bool.and_eq_true, beq_iff_eq] at empty
          have notLength : field.name ≠ contentLength := by
            rw [empty.1]
            decide
          rw [elements, if_neg notLength]
          rfl

theorem not_areSupported_of_isBlank (isIn : field ∈ fields)
    (isEncoding : field.name = transferEncoding) (blank : field.isBlank = true) :
    ¬AreSupported fields := by
  have unknown := unknown_mem_of_isBlank isIn isEncoding blank
  rintro (none | chunked)
  · simp [none] at unknown
  · simp [chunked] at unknown

theorem areSupported_of_frames (framed : Frames fields framing) : AreSupported fields := by
  cases framing with
  | chunked => exact Or.inr framed
  | length count => exact Or.inl framed.1
  | empty => exact Or.inl framed.1

/-- Sound claims with supported codings frame the body. -/
theorem exists_frames_of_areSupported (sound : AreSound fields) (supported : AreSupported fields) :
    ∃ framing, Frames fields framing := by
  rcases supported with noCodings | chunked
  · rcases sound.lengths with ⟨count, _, agree⟩
    cases lengths : lengthElements fields with
    | nil => exact ⟨.empty, noCodings, lengths⟩
    | cons first others =>
        have isIn : first ∈ lengthElements fields := lengths ▸ List.mem_cons_self
        exact ⟨.length count, noCodings, first, isIn, agree first isIn⟩
  · exact ⟨.chunked, chunked⟩

theorem areSupported_iff :
    AreSupported fields ↔
      (∀ field ∈ fields, field.name = transferEncoding → field.isBlank = false) ∧
        AreSupported (withoutEmptyLists fields) := by
  by_cases notBlank : ∀ field ∈ fields, field.name = transferEncoding → field.isBlank = false
  · rw [AreSupported, AreSupported, namedCodings_withoutEmptyLists notBlank]
    exact (and_iff_right notBlank).symm
  · refine iff_of_false ?_ fun supported => notBlank supported.1
    simp only [not_forall, Bool.not_eq_false] at notBlank
    rcases notBlank with ⟨field, isIn, isEncoding, blank⟩
    exact not_areSupported_of_isBlank isIn isEncoding blank

theorem not_areSupported_iff :
    ¬AreSupported fields ↔
      (∃ field ∈ fields, field.name = transferEncoding ∧ field.isBlank = true) ∨
        ¬AreSupported (withoutEmptyLists fields) := by
  rw [areSupported_iff, not_and_or]
  apply or_congr_left
  simp only [not_forall, exists_prop, Bool.not_eq_false]

theorem frames_withoutEmptyLists_iff
    (notBlank : ∀ field ∈ fields, field.name = transferEncoding → field.isBlank = false) :
    Frames (withoutEmptyLists fields) framing ↔ Frames fields framing := by
  cases framing <;> simp only [Frames, namedCodings_withoutEmptyLists notBlank,
    lengthElements_withoutEmptyLists]

/-- The error of codings that are not supported gives all values that name codings. -/
theorem framing_eq_error_iff :
    (BodyClaims.ofFields fields).framing = .error (.unsupportedTransferEncoding
        (Text.join [',', ' '] (textsOf transferEncoding fields))) ↔ ¬AreSupported fields := by
  have named : (BodyClaims.ofFields fields).codings.filter (· != .identity) =
      namedCodings fields := rfl
  rw [BodyClaims.framing, named, AreSupported]
  cases namedCodings fields with
  | nil => cases (BodyClaims.ofFields fields).length <;> simp
  | cons coding codings =>
      cases codings with
      | nil => cases coding <;> simp [BodyClaims.ofFields]
      | cons second others => simp [BodyClaims.ofFields]

end Field

namespace HeaderBlock

variable {kind : Kind} {limits : Limits} {startLine block rest : Bytes} {lines : List Bytes}
  {fields : List Field} {source : Source} {error : HeaderError}

/-- A block whose lines have no defect is rejected if its fields do not frame the body. -/
theorem IsLaidOut.read_eq (laidOut : IsLaidOut limits startLine lines block)
    (wellFormed : StartLine.IsWellFormed kind startLine)
    (isLines : List.Forall₂ Field.IsLine fields lines) (sound : Field.AreSound fields)
    (rejected : (BodyClaims.ofFields fields).framing = .error error) (rest : Bytes) :
    read kind limits (block ++ rest) = .error error := by
  rcases laidOut.parts with ⟨_, behind, rfl, ⟨raw, notIn, rfl, rfl, within⟩, areLines⟩
  have count : fields.length ≤ limits.fieldCount :=
    (List.Forall₂.length_eq isLines).trans_le laidOut.count
  have isFields : FieldsThen limits fields rest (behind ++ rest) :=
    (fieldsThen_iff_of_areLines areLines).mpr ⟨rfl, isLines⟩
  have start : startError? kind limits (Line.content raw) = none :=
    startError?_eq_none_iff.mpr ⟨within, wellFormed⟩
  rcases (readFields_eq_ok_iff Field.areSound_nil (Nat.zero_le _)).mpr
    ⟨fields, rfl, isFields, sound, count⟩ with ⟨others, fieldsRead, _⟩
  rw [List.append_assoc, List.append_assoc, List.singleton_append, read_line notIn, start]
  simp only [fieldsRead, conclude, List.nil_append, rejected]

/-- The framing of lines is that of the only fields that they hold. -/
theorem frames_iff {framing : Framing} (isLines : List.Forall₂ Field.IsLine fields lines)
    (sound : Field.AreSound fields) : Frames lines framing ↔ Field.Frames fields framing := by
  constructor
  · rintro ⟨others, otherLines, _, framed⟩
    have unique : Relator.LeftUnique (List.Forall₂ Field.IsLine) :=
      Relator.LeftUnique.forall₂ fun _ _ _ => Field.isLine_unique
    rwa [unique isLines otherLines]
  · exact fun framed => ⟨fields, isLines, sound, framed⟩

/-- A receiver rejects the codings that the one-shot reading rejects. -/
theorem read_start_of_unsupported {values : List Char}
    (rejected : read kind limits source.unread = .error (.unsupportedTransferEncoding values)) :
    (Receiver.scanner.read (.start kind limits) source).outcome =
      .failed (.unsupportedTransferEncoding values) := by
  rw [← Receiver.endOf_feed_start] at rejected
  cases fed : Receiver.scanner.feed (.start kind limits) source.unread with
  | more receiver =>
      rw [fed, Receiver.endOf, Receiver.cutError] at rejected
      split at rejected <;> cases rejected
  | done header rest => simp [fed, Receiver.endOf] at rejected
  | failed error rest =>
      simp only [fed, Receiver.endOf, Except.error.injEq] at rejected
      subst rejected
      have within : (Receiver.start kind limits).LineWithinTaken := Nat.zero_le _
      rcases Receiver.steady_scanner.run_of_feed_failed within (fun _ _ _ => rfl)
        (fun _ _ _ _ => rfl) rfl fed 0 with ⟨time, left, ran⟩
      rw [Scanner.read, ran]

/-- A header without any other defect is rejected because of its codings exactly if the value of
one of its `transfer-encoding` fields is all blank, or if the other fields name codings that are
not supported. Otherwise these frame the body, whatever empty lists there are beside them. -/
theorem read_start_of_emptyLists (laidOut : IsLaidOut limits startLine lines block)
    (wellFormed : StartLine.IsWellFormed kind startLine)
    (isLines : List.Forall₂ Field.IsLine fields lines) (sound : Field.AreSound fields)
    (unread : source.unread = block ++ rest) :
    ((Receiver.scanner.read (.start kind limits) source).outcome =
          .failed (.unsupportedTransferEncoding
            (Text.join [',', ' '] (Field.textsOf Field.transferEncoding fields))) ↔
        (∃ field ∈ fields, field.name = Field.transferEncoding ∧ field.isBlank = true) ∨
          ¬Field.AreSupported (Field.withoutEmptyLists fields)) ∧
      ∀ framing,
        (∃ header, (Receiver.scanner.read (.start kind limits) source).outcome = .done header ∧
            header.framing = framing) ↔
          (∀ field ∈ fields, field.name = Field.transferEncoding → field.isBlank = false) ∧
            Field.Frames (Field.withoutEmptyLists fields) framing := by
  have accepted : ∀ framing,
      (∃ header, (Receiver.scanner.read (.start kind limits) source).outcome = .done header ∧
          header.framing = framing) ↔ Field.Frames fields framing := by
    intro framing
    rw [laidOut.read_start_iff unread, and_iff_right wellFormed, frames_iff isLines sound]
  constructor
  · rw [← Field.not_areSupported_iff]
    constructor
    · intro failed supported
      rcases Field.exists_frames_of_areSupported sound supported with ⟨framing, framed⟩
      rcases (accepted framing).mpr framed with ⟨header, done, _⟩
      rw [done] at failed
      cases failed
    · intro unsupported
      apply read_start_of_unsupported
      rw [unread]
      have framed := Field.framing_eq_error_iff.mpr unsupported
      exact laidOut.read_eq wellFormed isLines sound framed rest
  · intro framing
    rw [accepted]
    constructor
    · intro framed
      have notBlank := (Field.areSupported_iff.mp (Field.areSupported_of_frames framed)).1
      exact ⟨notBlank, (Field.frames_withoutEmptyLists_iff notBlank).mpr framed⟩
    · rintro ⟨notBlank, framed⟩
      exact (Field.frames_withoutEmptyLists_iff notBlank).mp framed

/-- A list of codings that names none, but has a comma in it. -/
def commaField : Field :=
  ⟨Field.transferEncoding, [Bytes.comma]⟩

def lengthField : Field :=
  ⟨Field.contentLength, [0x33]⟩

/-- One empty list with a comma in it, and one without. -/
def emptyFields : List Field :=
  [commaField, ⟨Field.transferEncoding, []⟩, lengthField]

theorem read_start_of_emptyLists_emptyFields :
    let startLine := Bytes.ofChars ['P', 'U', 'T', ' ', '/', ' ', 'H', 'T', 'T', 'P', '/', '1']
    let lines := emptyFields.map Field.written
    let source : Source := .ofSegments [written startLine lines] .stalled
    IsLaidOut ⟨12, 3, 20, 1000⟩ startLine lines (written startLine lines) ∧
      StartLine.IsWellFormed .request startLine ∧
      List.Forall₂ Field.IsLine emptyFields lines ∧ Field.AreSound emptyFields ∧
      (Receiver.scanner.read (.start .request ⟨12, 3, 20, 1000⟩) source).outcome =
        .failed (.unsupportedTransferEncoding [',', ',', ' ']) := by
  intro startLine lines source
  have laidOut : IsLaidOut ⟨12, 3, 20, 1000⟩ startLine lines (written startLine lines) := by
    apply isLaidOut_written <;> decide +kernel
  have wellFormed : StartLine.IsWellFormed .request startLine :=
    StartLine.defect?_eq_none_iff.mp (by decide +kernel)
  have isLines : List.Forall₂ Field.IsLine emptyFields lines := by
    refine .cons ?_ (.cons ?_ (.cons ?_ .nil)) <;> exact Field.ofLine_eq_ok_iff.mp rfl
  have sound : Field.AreSound emptyFields := by
    refine ⟨?_, 3, by decide, by decide +kernel⟩
    simp only [emptyFields, List.forall_mem_cons, Utf8.isText_iff]
    decide +kernel
  have unread : source.unread = written startLine lines ++ [] := rfl
  have blank : ∃ field ∈ emptyFields,
      field.name = Field.transferEncoding ∧ field.isBlank = true := by decide +kernel
  refine ⟨laidOut, wellFormed, isLines, sound, ?_⟩
  exact (read_start_of_emptyLists laidOut wellFormed isLines sound unread).1.mpr (Or.inl blank)

/-- A list that names no coding is ignored if it is a comma, and the body gets a length. -/
theorem read_start_commaField :
    let startLine := Bytes.ofChars ['P', 'U', 'T', ' ', '/', ' ', 'H', 'T', 'T', 'P', '/', '1']
    let lines := [commaField, lengthField].map Field.written
    commaField.hasEmptyList = true ∧
      (Receiver.scanner.read (.start .request ⟨12, 2, 20, 1000⟩)
          (.ofSegments [written startLine lines] .stalled)).outcome =
        .done ⟨startLine, [commaField, lengthField], 57, .length 3⟩ :=
  ⟨by decide +kernel, rfl⟩

end HeaderBlock

end HttpRelay
