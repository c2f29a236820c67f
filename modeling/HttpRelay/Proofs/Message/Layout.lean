import Mathlib.Logic.Relation
import HttpRelay.Proofs.Message.Reencoding
import HttpRelay.Proofs.Message.SameClaims

/-!
# The layout of a header

The same fields can be laid out in many ways: in another order, with a list in one field or in
two, with names and codings in another case, and among other fields. A change of layout replaces
lines by others whose fields say the same about the body, so none of this has a say in where the
body ends (`HeaderBlock.framing_relaid`).
-/

namespace HttpRelay

namespace Field

variable {field other : Field}

section Lines

variable {name otherName rest content : Bytes}

theorem isLine_unique (isLine : field.IsLine content) (otherIsLine : other.IsLine content) :
    field = other := by
  have read := ofLine_eq_ok_iff.mpr isLine
  rw [ofLine_eq_ok_iff.mpr otherIsLine] at read
  exact (Except.ok.inj read).symm

theorem token_of_map_lower (same : name.map Bytes.lower = otherName.map Bytes.lower)
    (token : ∀ byte ∈ name, Bytes.isToken byte = true) :
    ∀ byte ∈ otherName, Bytes.isToken byte = true := by
  intro byte isIn
  have lowerIn : Bytes.lower byte ∈ name.map Bytes.lower := same ▸ List.mem_map_of_mem isIn
  rcases List.mem_map.mp lowerIn with ⟨upper, upperIn, lowerEq⟩
  rw [← Bytes.isToken_lower, ← lowerEq, Bytes.isToken_lower]
  exact token upper upperIn

/-- A field line is the line of the same field with its name in another case. -/
theorem IsLine.rename (isLine : field.IsLine (name ++ Bytes.colon :: rest))
    (noColon : Bytes.colon ∉ name) (otherNoColon : Bytes.colon ∉ otherName)
    (same : name.map Bytes.lower = otherName.map Bytes.lower) :
    field.IsLine (otherName ++ Bytes.colon :: rest) := by
  rcases (isLine_append_iff noColon).mp isLine with ⟨⟨nonempty, token⟩, fieldEq⟩
  refine (isLine_append_iff otherNoColon).mpr ⟨⟨?_, token_of_map_lower same token⟩, ?_⟩
  · rintro rfl
    exact nonempty (List.map_eq_nil_iff.mp same)
  · rw [← same]
    exact fieldEq

end Lines

end Field

namespace HeaderBlock

/-- One change of the layout of header fields, each given by its line. -/
inductive Relaid : List Bytes → List Bytes → Prop where
  /-- The lines in another order. -/
  | permuted {lines others : List Bytes} (perm : lines.Perm others) : Relaid lines others
  /-- A list about the body in two fields instead of one. -/
  | parted {line firstLine secondLine : Bytes} {whole first second : Field}
      (isWhole : whole.IsLine line) (isFirst : first.IsLine firstLine)
      (isSecond : second.IsLine secondLine) (parted : whole.IsParted first second)
      (lines : List Bytes) : Relaid (line :: lines) (firstLine :: secondLine :: lines)
  /-- A field name in another case. -/
  | renamed {name otherName : Bytes} (noColon : Bytes.colon ∉ name)
      (otherNoColon : Bytes.colon ∉ otherName)
      (same : name.map Bytes.lower = otherName.map Bytes.lower) (rest : Bytes)
      (lines : List Bytes) :
      Relaid ((name ++ Bytes.colon :: rest) :: lines) ((otherName ++ Bytes.colon :: rest) :: lines)
  /-- Codings in another case. -/
  | recoded {firstLine secondLine : Bytes} {first second : Field}
      (isFirst : first.IsLine firstLine) (isSecond : second.IsLine secondLine)
      (recoded : first.IsRecoded second) (lines : List Bytes) :
      Relaid (firstLine :: lines) (secondLine :: lines)
  /-- One more field, with a name that has no say about the body. -/
  | inserted {line : Bytes} {field : Field} (isLine : field.IsLine line)
      (notEncoding : field.name ≠ Field.transferEncoding)
      (notLength : field.name ≠ Field.contentLength) (lines : List Bytes) :
      Relaid lines (line :: lines)

/-- Lines of fields that make sound claims about the body, and how they frame it. -/
def Frames (lines : List Bytes) (framing : Framing) : Prop :=
  ∃ fields, List.Forall₂ Field.IsLine fields lines ∧ Field.AreSound fields ∧
    Field.Frames fields framing

variable {lines others : List Bytes} {fields otherFields : List Field} {framing : Framing}

section Frames

/-- Some of the lines can be exchanged for others if these hold fields that say the same. -/
theorem Frames.exchange {part otherPart : List Bytes}
    (exchange : ∀ fields, List.Forall₂ Field.IsLine fields part →
      ∃ others, List.Forall₂ Field.IsLine others otherPart ∧ Field.AreAlike fields others)
    (framed : Frames (part ++ lines) framing) : Frames (otherPart ++ lines) framing := by
  rcases framed with ⟨fields, areLines, sound, frames⟩
  have partLines := List.forall₂_take_append _ _ _ areLines
  have restLines := List.forall₂_drop_append _ _ _ areLines
  rcases exchange _ partLines with ⟨others, otherLines, alike⟩
  have allAlike := alike.append (fields.drop part.length)
  rw [List.take_append_drop] at allAlike
  exact ⟨_, List.rel_append otherLines restLines, allAlike.areSound sound,
    allAlike.frames sound frames⟩

theorem Frames.perm (framed : Frames lines framing) (perm : lines.Perm others) :
    Frames others framing := by
  rcases framed with ⟨fields, areLines, sound, frames⟩
  -- The fields can be put in the order of their lines.
  have reordered : Relation.Comp (List.Forall₂ Field.IsLine) List.Perm fields others :=
    ⟨lines, areLines, perm⟩
  rw [List.forall₂_comp_perm_eq_perm_comp_forall₂] at reordered
  rcases reordered with ⟨otherFields, fieldsPerm, otherLines⟩
  have alike := Field.AreAlike.of_perm fieldsPerm
  exact ⟨otherFields, otherLines, alike.areSound sound, alike.frames sound frames⟩

/-- Lines whose fields are known can be exchanged if the fields say the same. -/
theorem frames_exchange_iff {part otherPart : List Bytes}
    (partLines : List.Forall₂ Field.IsLine fields part)
    (otherLines : List.Forall₂ Field.IsLine otherFields otherPart)
    (alike : Field.AreAlike fields otherFields) (lines : List Bytes) :
    Frames (part ++ lines) framing ↔ Frames (otherPart ++ lines) framing := by
  have unique : Relator.LeftUnique (List.Forall₂ Field.IsLine) :=
    Relator.LeftUnique.forall₂ fun _ _ _ => Field.isLine_unique
  constructor
  · apply Frames.exchange
    intro others isLines
    rw [unique isLines partLines]
    exact ⟨otherFields, otherLines, alike⟩
  · apply Frames.exchange
    intro others isLines
    rw [unique isLines otherLines]
    exact ⟨fields, partLines, alike.symm⟩

theorem Frames.rename {name otherName rest : Bytes} (noColon : Bytes.colon ∉ name)
    (otherNoColon : Bytes.colon ∉ otherName)
    (same : name.map Bytes.lower = otherName.map Bytes.lower)
    (framed : Frames ((name ++ Bytes.colon :: rest) :: lines) framing) :
    Frames ((otherName ++ Bytes.colon :: rest) :: lines) framing := by
  rw [← List.singleton_append] at framed ⊢
  refine framed.exchange fun fields isLines => ⟨fields, ?_, Field.AreAlike.refl fields⟩
  cases isLines with
  | cons isLine isLines =>
      cases isLines
      exact .cons (isLine.rename noColon otherNoColon same) .nil

/-- A change of layout changes nothing about the framing. -/
theorem frames_iff_of_relaid (relaid : Relaid lines others) :
    Frames lines framing ↔ Frames others framing := by
  cases relaid with
  | permuted perm => exact ⟨fun framed => framed.perm perm, fun framed => framed.perm perm.symm⟩
  | parted isWhole isFirst isSecond parted lines =>
      exact frames_exchange_iff (.cons isWhole .nil) (.cons isFirst (.cons isSecond .nil))
        parted.areAlike lines
  | renamed noColon otherNoColon same rest lines =>
      exact ⟨Frames.rename noColon otherNoColon same,
        Frames.rename otherNoColon noColon same.symm⟩
  | recoded isFirst isSecond recoded lines =>
      exact frames_exchange_iff (.cons isFirst .nil) (.cons isSecond .nil) recoded.areAlike lines
  | inserted isLine notEncoding notLength lines =>
      exact frames_exchange_iff .nil (.cons isLine .nil)
        (Field.areAlike_nil notEncoding notLength) lines

/-- Any sequence of changes of layout changes nothing about the framing. -/
theorem frames_iff_of_eqvGen (relaid : Relation.EqvGen Relaid lines others) :
    Frames lines framing ↔ Frames others framing := by
  induction relaid with
  | rel lines others relaid => exact frames_iff_of_relaid relaid
  | refl lines => exact Iff.rfl
  | symm lines others _ ih => exact ih.symm
  | trans lines middle others _ _ first second => exact first.trans second

end Frames

section Blocks

variable {kind : Kind} {limits : Limits} {limit : Nat} {startLine block behind rest : Bytes}
  {source otherSource : Source}

/-- Lines with the given contents, each within a limit, and a blank line behind them. -/
inductive AreLines (limit : Nat) : List Bytes → Bytes → Prop where
  | blank {line : Bytes} (isLine : Line.IsWhole limit [] line) : AreLines limit [] line
  | next {content line behind : Bytes} {lines : List Bytes}
      (isLine : Line.IsWhole limit content line) (nonempty : content ≠ [])
      (areLines : AreLines limit lines behind) :
      AreLines limit (content :: lines) (line ++ behind)

/-- A header block within the limits, given by its start line and its field lines. -/
structure IsLaidOut (limits : Limits) (startLine : Bytes) (lines : List Bytes) (block : Bytes) :
    Prop where
  parts : ∃ line behind, block = line ++ behind ∧
    Line.IsWhole limits.startLineSize startLine line ∧ AreLines limits.fieldSize lines behind
  count : lines.length ≤ limits.fieldCount

theorem fieldsThen_iff_of_areLines (areLines : AreLines limits.fieldSize lines block) :
    FieldsThen limits fields behind (block ++ rest) ↔
      behind = rest ∧ List.Forall₂ Field.IsLine fields lines := by
  induction areLines generalizing fields with
  | blank isLine =>
      rcases isLine with ⟨raw, notIn, rfl, content, _⟩
      rw [List.append_assoc, List.singleton_append, fieldsThen_line_iff notIn, content,
        List.forall₂_nil_right_iff]
      simp only [List.length_nil, Nat.zero_le, true_and, Field.not_isLine_nil, false_and,
        exists_false, or_false]
      exact and_comm
  | next isLine nonempty _ ih =>
      rcases isLine with ⟨raw, notIn, rfl, rfl, within⟩
      rw [List.append_assoc, List.append_assoc, List.singleton_append, fieldsThen_line_iff notIn,
        List.forall₂_cons_right_iff]
      simp only [within, nonempty, true_and, false_and, false_or, ih]
      constructor
      · rintro ⟨field, others, isField, fieldsEq, behindEq, areFields⟩
        exact ⟨behindEq, field, others, isField, areFields, fieldsEq⟩
      · rintro ⟨behindEq, field, others, isField, areFields, fieldsEq⟩
        exact ⟨field, others, isField, fieldsEq, behindEq, areFields⟩

/-- A block that is laid out in given lines is accepted exactly if its start line is well-formed
and its fields frame the body, and it has the framing that they give. -/
theorem IsLaidOut.read_start_iff (laidOut : IsLaidOut limits startLine lines block)
    (unread : source.unread = block ++ rest) :
    (∃ header, (Receiver.scanner.read (.start kind limits) source).outcome = .done header ∧
        header.framing = framing) ↔
      StartLine.IsWellFormed kind startLine ∧ Frames lines framing := by
  rcases laidOut.parts with ⟨_, fieldLines, rfl, ⟨raw, notIn, rfl, rfl, within⟩, areLines⟩
  constructor
  · rintro ⟨header, done, rfl⟩
    rcases ran : Receiver.scanner.read (.start kind limits) source with ⟨time, outcome, items⟩
    simp only [ran] at done
    rw [done] at ran
    rcases Receiver.read_start_eq_done_iff.mp ⟨time, items, ran, rfl⟩ with
      ⟨other, fields, otherUnread, accepts⟩
    rcases accepts.lines with ⟨_, others, rfl, ⟨otherRaw, otherNotIn, rfl, content, _⟩, isFields⟩
    -- The block that was accepted is this one, since both end at the first blank line.
    simp only [unread, List.append_assoc, List.singleton_append] at otherUnread
    rcases (Text.append_separator_inj notIn otherNotIn).mp otherUnread with ⟨rfl, same⟩
    rcases (fieldsThen_iff_of_areLines areLines).mp ⟨others, same, isFields⟩ with ⟨_, isLines⟩
    rw [content]
    exact ⟨accepts.startLine, fields, isLines, accepts.sound, accepts.framed⟩
  · rintro ⟨wellFormed, fields, isLines, sound, framed⟩
    rcases (fieldsThen_iff_of_areLines areLines).mpr ⟨(rfl : rest = rest), isLines⟩ with
      ⟨others, same, isFields⟩
    rw [List.append_cancel_right same] at unread laidOut
    have accepts : Accepts kind limits (raw ++ [Bytes.lineFeed] ++ others) fields
        ⟨Line.content raw, Field.forwarded fields, _, framing⟩ :=
      { lines := ⟨_, others, rfl, ⟨raw, notIn, rfl, rfl, within⟩, isFields⟩
        startLine := wellFormed
        count := (List.Forall₂.length_eq isLines).trans_le laidOut.count
        sound := sound
        framed := framed
        forwarded := rfl
        receivedLength := rfl }
    rcases Receiver.read_start_eq_done_iff.mpr ⟨_, fields, unread, accepts⟩ with
      ⟨time, items, ran, _⟩
    exact ⟨_, by rw [ran], rfl⟩

end Blocks

section Written

variable {limits : Limits} {limit : Nat} {startLine : Bytes}

/-- A block in which each line is written with the line terminator. -/
def written (startLine : Bytes) (lines : List Bytes) : Bytes :=
  (startLine ++ Bytes.lineEnd) ++ (lines.flatMap (· ++ Bytes.lineEnd) ++ Bytes.lineEnd)

theorem areLines_written
    (fit : ∀ line ∈ lines, line ≠ [] ∧ Bytes.lineFeed ∉ line ∧ line.length ≤ limit) :
    AreLines limit lines (lines.flatMap (· ++ Bytes.lineEnd) ++ Bytes.lineEnd) := by
  induction lines with
  | nil => exact .blank (Line.isWhole_lineEnd List.not_mem_nil (Nat.zero_le _))
  | cons line lines ih =>
      rcases List.forall_mem_cons.mp fit with ⟨⟨nonempty, noLineFeed, within⟩, others⟩
      rw [List.flatMap_cons, List.append_assoc]
      exact .next (Line.isWhole_lineEnd noLineFeed within) nonempty (ih others)

/-- Any lines that fit the limits make a block. -/
theorem isLaidOut_written (noLineFeed : Bytes.lineFeed ∉ startLine)
    (within : startLine.length ≤ limits.startLineSize)
    (fit : ∀ line ∈ lines, line ≠ [] ∧ Bytes.lineFeed ∉ line ∧ line.length ≤ limits.fieldSize)
    (count : lines.length ≤ limits.fieldCount) :
    IsLaidOut limits startLine lines (written startLine lines) where
  parts := ⟨_, _, rfl, Line.isWhole_lineEnd noLineFeed within, areLines_written fit⟩
  count := count

end Written

section Framing

variable {limits : Limits} {startLine block otherBlock rest otherRest : Bytes}
  {source otherSource : Source}

/-- Header blocks within the limits that have the same start line, and the same fields in
different layouts, are accepted or rejected together, and they frame the body in the same way. -/
theorem framing_relaid (kind : Kind) (laidOut : IsLaidOut limits startLine lines block)
    (otherLaidOut : IsLaidOut limits startLine others otherBlock)
    (relaid : Relation.EqvGen Relaid lines others)
    (unread : source.unread = block ++ rest)
    (otherUnread : otherSource.unread = otherBlock ++ otherRest) :
    ((∃ header, (Receiver.scanner.read (.start kind limits) source).outcome = .done header) ↔
        ∃ header,
          (Receiver.scanner.read (.start kind limits) otherSource).outcome = .done header) ∧
      ∀ header otherHeader,
        (Receiver.scanner.read (.start kind limits) source).outcome = .done header →
        (Receiver.scanner.read (.start kind limits) otherSource).outcome = .done otherHeader →
          header.framing = otherHeader.framing := by
  have accepted : ∀ framing,
      (∃ header, (Receiver.scanner.read (.start kind limits) source).outcome = .done header ∧
          header.framing = framing) ↔
        ∃ header,
          (Receiver.scanner.read (.start kind limits) otherSource).outcome = .done header ∧
            header.framing = framing := by
    intro framing
    rw [laidOut.read_start_iff unread, otherLaidOut.read_start_iff otherUnread,
      frames_iff_of_eqvGen relaid]
  constructor
  · constructor
    · rintro ⟨header, done⟩
      rcases (accepted header.framing).mp ⟨header, done, rfl⟩ with ⟨otherHeader, otherDone, _⟩
      exact ⟨otherHeader, otherDone⟩
    · rintro ⟨otherHeader, otherDone⟩
      rcases (accepted otherHeader.framing).mpr ⟨otherHeader, otherDone, rfl⟩ with
        ⟨header, done, _⟩
      exact ⟨header, done⟩
  · intro header otherHeader done otherDone
    rcases (accepted header.framing).mp ⟨header, done, rfl⟩ with ⟨again, againDone, sameFraming⟩
    rw [otherDone] at againDone
    cases againDone
    exact sameFraming.symm

/-- A field that names transfer codings. -/
def codingField (codings : List Char) : Field :=
  ⟨Field.transferEncoding, Bytes.ofChars codings⟩

def identityField : Field :=
  codingField ['i', 'd', 'e', 'n', 't', 'i', 't', 'y']

def chunkedField : Field :=
  codingField ['c', 'h', 'u', 'n', 'k', 'e', 'd']

/-- Both codings in one field. -/
def joinedField : Field :=
  codingField ['i', 'd', 'e', 'n', 't', 'i', 't', 'y', ',', 'c', 'h', 'u', 'n', 'k', 'e', 'd']

/-- Both codings in two fields, in another order and case, behind a field with another name. -/
def scatteredFields : List Field :=
  [⟨Bytes.ofChars ['h'], []⟩, codingField ['C', 'H', 'U', 'N', 'K', 'E', 'D'], identityField]

theorem relaid_scatteredFields :
    Relation.EqvGen Relaid [joinedField.written] (scatteredFields.map Field.written) := by
  have isLine : ∀ field ∈ joinedField :: chunkedField :: scatteredFields,
      field.IsLine field.written := by
    simp only [← Field.ofLine_eq_ok_iff]
    decide +kernel
  simp only [scatteredFields, List.forall_mem_cons] at isLine
  rcases isLine with ⟨isJoined, isChunked, isOther, isCapital, isIdentity, _⟩
  have isParted : joinedField.IsParted identityField chunkedField :=
    ⟨Or.inl rfl, rfl, rfl, ⟨[], [], rfl, List.forall_mem_nil _, List.forall_mem_nil _⟩,
      by decide +kernel, by decide +kernel⟩
  have isRecoded : chunkedField.IsRecoded (codingField ['C', 'H', 'U', 'N', 'K', 'E', 'D']) :=
    ⟨rfl, rfl, by decide +kernel⟩
  have parted := Relaid.parted isJoined isIdentity isChunked isParted []
  have permuted := Relaid.permuted (.swap chunkedField.written identityField.written [])
  have recoded := Relaid.recoded isChunked isCapital isRecoded [identityField.written]
  have inserted := Relaid.inserted isOther (by decide) (by decide)
    [(codingField ['C', 'H', 'U', 'N', 'K', 'E', 'D']).written, identityField.written]
  exact .trans _ _ _ (.rel _ _ parted) (.trans _ _ _ (.rel _ _ permuted)
    (.trans _ _ _ (.rel _ _ recoded) (.rel _ _ inserted)))

theorem framing_relaid_scatteredFields :
    let limits : Limits := ⟨14, 3, 36, 1000⟩
    let startLine := Bytes.ofChars
      ['G', 'E', 'T', ' ', '/', ' ', 'H', 'T', 'T', 'P', '/', '1', '.', '1']
    let lines := [joinedField.written]
    let others := scatteredFields.map Field.written
    let joined : Source := .ofSegments [written startLine lines] .stalled
    let scattered : Source := .ofSegments [written startLine others] .stalled
    IsLaidOut limits startLine lines (written startLine lines) ∧
      IsLaidOut limits startLine others (written startLine others) ∧
      Relation.EqvGen Relaid lines others ∧
      ∃ header otherHeader,
        (Receiver.scanner.read (.start .request limits) joined).outcome = .done header ∧
          (Receiver.scanner.read (.start .request limits) scattered).outcome =
            .done otherHeader ∧
          header.framing = .chunked ∧ otherHeader.framing = .chunked := by
  intro limits startLine lines others joined scattered
  have laidOut : IsLaidOut limits startLine lines (written startLine lines) := by
    apply isLaidOut_written <;> decide +kernel
  have otherLaidOut : IsLaidOut limits startLine others (written startLine others) := by
    apply isLaidOut_written <;> decide +kernel
  have unread : joined.unread = written startLine lines ++ [] := rfl
  have otherUnread : scattered.unread = written startLine others ++ [] := rfl
  have framed : Frames lines .chunked := by
    refine ⟨[joinedField], .cons (Field.ofLine_eq_ok_iff.mp rfl) .nil, ⟨?_, ?_⟩, ?_⟩
    · exact List.forall_mem_singleton.mpr fun _ => Utf8.isText_iff.mpr (by decide +kernel)
    · exact ⟨0, by decide, by decide +kernel⟩
    · rw [Field.Frames]
      decide +kernel
  have wellFormed : StartLine.IsWellFormed .request startLine :=
    StartLine.defect?_eq_none_iff.mp (by decide +kernel)
  rcases (laidOut.read_start_iff unread).mpr ⟨wellFormed, framed⟩ with ⟨header, done, isChunked⟩
  rcases framing_relaid .request laidOut otherLaidOut relaid_scatteredFields unread otherUnread with
    ⟨accepted, sameFraming⟩
  rcases accepted.mp ⟨header, done⟩ with ⟨otherHeader, otherDone⟩
  refine ⟨laidOut, otherLaidOut, relaid_scatteredFields, header, otherHeader, done, otherDone,
    isChunked, ?_⟩
  exact (sameFraming header otherHeader done otherDone).symm.trans isChunked

end Framing

end HeaderBlock

end HttpRelay
