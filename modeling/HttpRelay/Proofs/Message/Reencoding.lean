import HttpRelay.Proofs.Message.HeaderGrammar

/-!
# Encoded headers

A header that was accepted is read back from its encoded form. The encoded form is a header
block: its lines are the start line, the fields that are forwarded, and a blank line, and no
name or value ends a line early. Its fields say the same about the body as the fields that were
received, since those that are dropped or replaced say nothing about it
(`HeaderBlock.Accepts.encode`).
-/

namespace HttpRelay

namespace Line

variable {limit : Nat} {content line : Bytes}

theorem content_concat_carriageReturn (content : Bytes) :
    Line.content (content ++ [Bytes.carriageReturn]) = content := by
  simp [Line.content]

theorem lineFeed_notMem_of_isWhole (isWhole : IsWhole limit content line) :
    Bytes.lineFeed ∉ content := by
  rcases isWhole with ⟨raw, notIn, _, rfl, _⟩
  intro isIn
  apply notIn
  rw [Line.content] at isIn
  split at isIn
  · exact (List.dropLast_prefix raw).subset isIn
  · exact isIn

/-- A content that is written with the line terminator is a line of its own. -/
theorem isWhole_lineEnd (notIn : Bytes.lineFeed ∉ content) (within : content.length ≤ limit) :
    IsWhole limit content (content ++ Bytes.lineEnd) := by
  refine ⟨content ++ [Bytes.carriageReturn], ?_, ?_, content_concat_carriageReturn content, within⟩
  · simp only [List.mem_append, List.mem_singleton, not_or]
    exact ⟨notIn, by decide⟩
  · rw [List.append_assoc]
    rfl

theorem count_lineEnd (notIn : Bytes.lineFeed ∉ content) :
    (content ++ Bytes.lineEnd).count Bytes.lineFeed = 1 := by
  rw [List.count_append, List.count_eq_zero.mpr notIn]
  rfl

end Line

namespace Field

variable {field other : Field} {fields : List Field} {content name : Bytes}

/-- The line in which a field is written, without its terminator. -/
def written (field : Field) : Bytes :=
  field.name ++ separator ++ field.value

theorem line_eq (field : Field) : field.line = field.written ++ Bytes.lineEnd := rfl

/-- A field of which nothing is lost when it is written and read again. -/
structure IsWritable (field : Field) : Prop where
  nonempty : field.name ≠ []
  token : ∀ byte ∈ field.name, Bytes.isToken byte = true
  lower : field.name.map Bytes.lower = field.name
  noLineFeed : Bytes.lineFeed ∉ field.value
  first : ∀ byte ∈ field.value.head?, Bytes.isBlank byte = false
  last : ∀ byte ∈ field.value.getLast?, Bytes.isBlank byte = false

theorem lineFeed_notMem_of_token (token : ∀ byte ∈ name, Bytes.isToken byte = true) :
    Bytes.lineFeed ∉ name := by
  intro isIn
  have isToken := token _ isIn
  revert isToken
  decide

/-- A field that was read from a line can be written. -/
theorem IsLine.isWritable (isLine : field.IsLine content) (noLineFeed : Bytes.lineFeed ∉ content) :
    field.IsWritable := by
  rcases isLine with ⟨name, left, right, rfl, nonempty, token, nameEq, _, _, first, last⟩
  refine ⟨?_, ?_, ?_, ?_, first, last⟩
  · rw [nameEq]
    simpa using nonempty
  · rw [nameEq]
    intro byte isIn
    rcases List.mem_map.mp isIn with ⟨upper, upperIn, rfl⟩
    exact (Bytes.isToken_lower upper).trans (token upper upperIn)
  · rw [nameEq, List.map_map]
    apply List.map_congr_left
    intro byte _
    exact Bytes.lower_lower byte
  · intro isIn
    apply noLineFeed
    simp [isIn]

namespace IsWritable

theorem isLine (writable : field.IsWritable) : field.IsLine field.written := by
  refine ⟨field.name, [Bytes.space], [], ?_, writable.nonempty, writable.token,
    writable.lower.symm, ?_, ?_, writable.first, writable.last⟩
  · simp [written, separator]
  · simp [Bytes.isBlank]
  · simp

theorem lineFeed_notMem_name (writable : field.IsWritable) : Bytes.lineFeed ∉ field.name :=
  lineFeed_notMem_of_token writable.token

theorem lineFeed_notMem_written (writable : field.IsWritable) :
    Bytes.lineFeed ∉ field.written := by
  simp only [written, List.mem_append, not_or]
  exact ⟨⟨writable.lineFeed_notMem_name, by decide⟩, writable.noLineFeed⟩

end IsWritable

theorem count_lineFeed_lines (writable : ∀ field ∈ fields, field.IsWritable) :
    (fields.flatMap Field.line).count Bytes.lineFeed = fields.length := by
  induction fields with
  | nil => rfl
  | cons field fields ih =>
      rcases List.forall_mem_cons.mp writable with ⟨first, others⟩
      rw [List.flatMap_cons, List.count_append, Field.line_eq,
        Line.count_lineEnd first.lineFeed_notMem_written, ih others, List.length_cons]
      omega

theorem isWritable_close : IsWritable ⟨connection, close⟩ := by
  constructor <;> decide +kernel

section Forwarded

theorem mem_of_mem_forwarded (isIn : field ∈ forwarded fields) :
    field ∈ fields ∨ field = ⟨connection, close⟩ := by
  simp only [forwarded, List.mem_append, List.mem_filter] at isIn
  rcases isIn with (⟨isIn, _⟩ | isIn) | ⟨isIn, _⟩
  · exact Or.inl ((List.takeWhile_prefix _).subset isIn)
  · split at isIn
    · cases isIn
    · exact Or.inr (List.mem_singleton.mp isIn)
  · exact Or.inl ((List.dropWhile_suffix _).subset isIn)

theorem any_connection_forwarded (fields : List Field) :
    (forwarded fields).any (·.name == connection) = fields.any (·.name == connection) := by
  induction fields using List.reverseRecOn with
  | nil => rfl
  | append_singleton fields field ih =>
      rw [forwarded_append, List.any_append, List.any_append, ih]
      by_cases named : field.name = connection
      · cases seen : fields.any (·.name == connection) <;> simp [named]
      · cases kept : field.isKept <;> simp [named]

/-- What is forwarded is forwarded as it is. -/
theorem forwarded_forwarded (fields : List Field) :
    forwarded (forwarded fields) = forwarded fields := by
  induction fields using List.reverseRecOn with
  | nil => rfl
  | append_singleton fields field ih =>
      rw [forwarded_append]
      -- Only the first connection field leaves something, which is a connection field again.
      by_cases named : field.name = connection
      · rw [if_pos named]
        cases seen : fields.any (·.name == connection) with
        | true => simpa using ih
        | false =>
            have notForwarded := (any_connection_forwarded fields).trans seen
            simp [forwarded_append, ih, notForwarded]
      · rw [if_neg named]
        cases kept : field.isKept with
        | true => simp [forwarded_append, ih, named, kept]
        | false => simpa using ih

/-- A field that is dropped or replaced has no say about the body. -/
theorem textsOf_forwarded (fields : List Field) (notUpgrade : upgrade ≠ name)
    (notConnection : connection ≠ name) :
    textsOf name (forwarded fields) = textsOf name fields := by
  induction fields using List.reverseRecOn with
  | nil => rfl
  | append_singleton fields field ih =>
      rw [forwarded_append, textsOf_append]
      by_cases named : field.name = connection
      · rw [if_pos named, named, if_neg notConnection]
        split
        · simpa using ih
        · rw [textsOf_append, if_neg notConnection, ih]
      · rw [if_neg named]
        cases kept : field.isKept with
        | true => rw [if_pos rfl, textsOf_append, ih]
        | false =>
            have isUpgrade : field.name = upgrade := by
              simpa [isKept, named] using kept
            rw [isUpgrade, if_neg notUpgrade]
            simpa using ih

theorem codings_forwarded (fields : List Field) : codings (forwarded fields) = codings fields := by
  rw [codings, codings, textsOf_forwarded fields (by decide) (by decide)]

theorem lengthElements_forwarded (fields : List Field) :
    lengthElements (forwarded fields) = lengthElements fields := by
  rw [lengthElements, lengthElements, textsOf_forwarded fields (by decide) (by decide)]

theorem AreSound.forwarded (sound : AreSound fields) : AreSound (forwarded fields) where
  text := by
    intro field isIn named
    rcases mem_of_mem_forwarded isIn with received | rfl
    · exact sound.text field received named
    · have impossible : ¬(connection = transferEncoding ∨ connection = contentLength) := by
        decide
      exact absurd named impossible
  lengths := by
    rw [lengthElements_forwarded]
    exact sound.lengths

theorem frames_forwarded_iff {framing : Framing} :
    Frames (forwarded fields) framing ↔ Frames fields framing := by
  have sameCodings : namedCodings (forwarded fields) = namedCodings fields := by
    rw [namedCodings, namedCodings, codings_forwarded]
  cases framing <;> simp only [Frames, sameCodings, lengthElements_forwarded]

end Forwarded

end Field

/-- Limits that leave room for a header as it is forwarded. -/
structure Limits.Admits (limits : Limits) (header : Header) : Prop where
  startLine : header.startLine.length ≤ limits.startLineSize
  count : header.fields.length ≤ limits.fieldCount
  fields : ∀ field ∈ header.fields, field.written.length ≤ limits.fieldSize

namespace Header

/-- A header as it is received from its encoded form. -/
def encoded (header : Header) : Header :=
  { header with receivedLength := header.encode.length }

theorem encode_eq (header : Header) :
    header.encode = (header.startLine ++ Bytes.lineEnd) ++
      (header.fields.flatMap Field.line ++ Bytes.lineEnd) := by
  simp only [encode, List.append_assoc]

end Header

namespace HeaderBlock

variable {kind : Kind} {limits admitting : Limits} {block : Bytes} {fields : List Field}
  {header : Header}

theorem IsFields.isWritable (isFields : IsFields limits block fields) :
    ∀ field ∈ fields, field.IsWritable := by
  induction isFields with
  | blank isLine => simp
  | field isLine isField _ ih =>
      have first := isField.isWritable (Line.lineFeed_notMem_of_isWhole isLine)
      exact List.forall_mem_cons.mpr ⟨first, ih⟩

theorem isFields_of_isWritable (writable : ∀ field ∈ fields, field.IsWritable)
    (within : ∀ field ∈ fields, field.written.length ≤ limits.fieldSize) :
    IsFields limits (fields.flatMap Field.line ++ Bytes.lineEnd) fields := by
  induction fields with
  | nil =>
      apply IsFields.blank
      exact Line.isWhole_lineEnd List.not_mem_nil (Nat.zero_le _)
  | cons field fields ih =>
      rcases List.forall_mem_cons.mp writable with ⟨firstWritable, othersWritable⟩
      rcases List.forall_mem_cons.mp within with ⟨firstWithin, othersWithin⟩
      rw [List.flatMap_cons, List.append_assoc, Field.line_eq]
      apply IsFields.field
      · exact Line.isWhole_lineEnd firstWritable.lineFeed_notMem_written firstWithin
      · exact firstWritable.isLine
      · exact ih othersWritable othersWithin

namespace Accepts

theorem lineFeed_notMem_startLine (accepts : Accepts kind limits block fields header) :
    Bytes.lineFeed ∉ header.startLine := by
  rcases accepts.lines with ⟨line, others, _, isLine, _⟩
  exact Line.lineFeed_notMem_of_isWhole isLine

theorem isWritable (accepts : Accepts kind limits block fields header) :
    ∀ field ∈ header.fields, field.IsWritable := by
  rcases accepts.lines with ⟨line, others, _, _, isFields⟩
  rw [accepts.forwarded]
  intro field isIn
  rcases Field.mem_of_mem_forwarded isIn with received | rfl
  · exact isFields.isWritable field received
  · exact Field.isWritable_close

/-- The encoded form of a header that was accepted stands for the same header. -/
theorem encode (accepts : Accepts kind limits block fields header)
    (admits : admitting.Admits header) :
    Accepts kind admitting header.encode header.fields header.encoded where
  lines := by
    refine ⟨_, _, header.encode_eq, ?_, ?_⟩
    · exact Line.isWhole_lineEnd accepts.lineFeed_notMem_startLine admits.startLine
    · exact isFields_of_isWritable accepts.isWritable admits.fields
  startLine := accepts.startLine
  count := admits.count
  sound := by
    rw [accepts.forwarded]
    exact accepts.sound.forwarded
  framed := by
    rw [accepts.forwarded]
    exact Field.frames_forwarded_iff.mpr accepts.framed
  forwarded := by
    change header.fields = Field.forwarded header.fields
    rw [accepts.forwarded, Field.forwarded_forwarded]
  receivedLength := rfl

/-- The encoded form has the line feeds of its line terminators, and no other. -/
theorem count_lineFeed (accepts : Accepts kind limits block fields header) :
    header.encode.count Bytes.lineFeed = header.fields.length + 2 := by
  have blank : Bytes.lineEnd.count Bytes.lineFeed = 1 := rfl
  have start := Line.count_lineEnd accepts.lineFeed_notMem_startLine
  have others := Field.count_lineFeed_lines accepts.isWritable
  rw [header.encode_eq, List.count_append, start, List.count_append, others, blank]
  omega

end Accepts

end HeaderBlock

end HttpRelay
