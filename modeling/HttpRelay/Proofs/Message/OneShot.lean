import HttpRelay.Message.Receiver
import HttpRelay.Proofs.Message.Fields
import HttpRelay.Proofs.Message.Lines

/-!
# Reading a header at once

The header at the front of a byte string, read from the list of its lines. There are no
segments here and no unfinished line: the byte string is cut at its line feeds first, and the
lines are examined in order, each with the fields before it. A receiver that is fed the same
bytes, in whatever segments, ends with the same header and the same rest, or with the same
error (`endOf_feed_start`).
-/

namespace HttpRelay

namespace HeaderBlock

/-- The error of a stream that ended inside a line. -/
def unfinished (what : Limited) (limit : Nat) (last : Bytes) : HeaderError :=
  if limit + 1 < last.length then .limitExceeded what limit else .incomplete

/-- What is wrong with a start line, its size first. -/
def startError? (kind : Kind) (limits : Limits) (line : Bytes) : Option HeaderError :=
  if limits.startLineSize < line.length then
    some (.limitExceeded (.startLine kind) limits.startLineSize)
  else (StartLine.defect? kind line).map .malformed

def readField (limits : Limits) (earlier : List Field) (line : Bytes) :
    Except HeaderError Field :=
  if limits.fieldCount ≤ earlier.length then
    .error (.limitExceeded .fieldCount limits.fieldCount)
  else
    match Field.ofLine line with
    | .error defect => .error (.malformed defect)
    | .ok field =>
        match Field.defect? earlier field with
        | some defect => .error (.malformed defect)
        | none => .ok field

/-- The fields down to the blank line, after other fields, and the lines behind it. -/
def readFields (limits : Limits) (last : Bytes) :
    List Field → List Bytes → Except HeaderError (List Field × List Bytes)
  | _, [] => .error (unfinished .field limits.fieldSize last)
  | earlier, raw :: others =>
      if limits.fieldSize < (Line.content raw).length then
        .error (.limitExceeded .field limits.fieldSize)
      else if Line.content raw = [] then .ok (earlier, others)
      else
        match readField limits earlier (Line.content raw) with
        | .error error => .error error
        | .ok field => readFields limits last (earlier ++ [field]) others

/-- The header of a start line and fields, and the bytes behind it out of a number of bytes
in all. -/
def conclude (startLine : Bytes) (total : Nat) (last : Bytes) :
    Except HeaderError (List Field × List Bytes) → Except HeaderError (Header × Bytes)
  | .error error => .error error
  | .ok (fields, others) =>
      match (BodyClaims.ofFields fields).framing with
      | .error error => .error error
      | .ok framing =>
          let rest := Line.uncut others last
          .ok (⟨startLine, Field.forwarded fields, total - rest.length, framing⟩, rest)

/-- The header at the front of all bytes of a stream, and the bytes behind it. -/
def read (kind : Kind) (limits : Limits) (bytes : Bytes) : Except HeaderError (Header × Bytes) :=
  match Line.cut bytes with
  | ([], last) =>
      .error (if last = [] then .connectionClosed
        else unfinished (.startLine kind) limits.startLineSize last)
  | (raw :: others, last) =>
      match startError? kind limits (Line.content raw) with
      | some error => .error error
      | none =>
          conclude (Line.content raw) bytes.length last (readFields limits last [] others)

variable {kind : Kind} {limits : Limits} {raw : Bytes}

theorem read_last (notIn : Bytes.lineFeed ∉ raw) :
    read kind limits raw =
      .error (if raw = [] then .connectionClosed
        else unfinished (.startLine kind) limits.startLineSize raw) := by
  simp only [read, Line.cut_of_notMem notIn]

theorem read_line (notIn : Bytes.lineFeed ∉ raw) (rest : Bytes) :
    read kind limits (raw ++ Bytes.lineFeed :: rest) =
      match startError? kind limits (Line.content raw) with
      | some error => .error error
      | none =>
          conclude (Line.content raw) (raw.length + 1 + rest.length) (Line.cut rest).2
            (readFields limits (Line.cut rest).2 [] (Line.cut rest).1) := by
  have total : (raw ++ Bytes.lineFeed :: rest).length = raw.length + 1 + rest.length := by
    simp only [List.length_append, List.length_cons]
    omega
  simp only [read, Line.cut_line notIn, total]

end HeaderBlock

namespace Receiver

variable {receiver : Receiver} {raw rest : Bytes}

/-- The receiver at the start of a line, some bytes of it later. -/
def reading (receiver : Receiver) (raw : Bytes) : Receiver :=
  { receiver with line := raw.toArray, taken := receiver.taken + raw.length }

@[simp]
theorem reading_line : (receiver.reading raw).line = raw.toArray := rfl

@[simp]
theorem reading_lineLimit : (receiver.reading raw).lineLimit = receiver.lineLimit := rfl

@[simp]
theorem reading_lineTooLong : (receiver.reading raw).lineTooLong = receiver.lineTooLong := rfl

/-- What a receiver comes to that is left at the end of the stream. -/
def endOf : Scan Receiver Header HeaderError → Except HeaderError (Header × Bytes)
  | .more receiver => .error (receiver.cutError .finished)
  | .done header rest => .ok (header, rest)
  | .failed error _ => .error error

theorem scan_of_notMem (notIn : Bytes.lineFeed ∉ raw) (empty : receiver.line = #[]) :
    scanner.scan receiver raw = .more (receiver.reading raw) := by
  have scanned : ∀ receiver : Receiver, scanner.scan receiver raw =
      .more { receiver with
        line := receiver.line ++ raw.toArray, taken := receiver.taken + raw.length } := by
    induction raw with
    | nil => simp
    | cons byte raw ih =>
        intro receiver
        simp only [List.mem_cons, not_or] at notIn
        have accepted : scanner.accept receiver byte =
            .more
              { receiver with line := receiver.line.push byte, taken := receiver.taken + 1 } := by
          simp [scanner, accept, Line.accept, Ne.symm notIn.1]
        simp only [Scanner.scan_cons_of_more accepted, ih notIn.2]
        have taken : receiver.taken + 1 + raw.length = receiver.taken + (byte :: raw).length := by
          simp only [List.length_cons]
          omega
        simp [taken]
  simp only [scanned receiver, reading, empty, Array.empty_append]

theorem accept_lineFeed (receiver : Receiver) :
    scanner.accept receiver Bytes.lineFeed =
      if (Line.content receiver.line.toList).length ≤ receiver.lineLimit then
        receiver.endLine (Line.content receiver.line.toList)
      else .failed receiver.lineTooLong := by
  simp only [scanner, accept, Line.accept, beq_self_eq_true, if_true]
  by_cases within : (Line.content receiver.line.toList).length ≤ receiver.lineLimit <;>
    simp only [within, if_true, if_false]

theorem feed_line (notIn : Bytes.lineFeed ∉ raw) (empty : receiver.line = #[]) (rest : Bytes) :
    scanner.feed receiver (raw ++ Bytes.lineFeed :: rest) =
      if (Line.content raw).length ≤ receiver.lineLimit then
        match (receiver.reading raw).endLine (Line.content raw) with
        | .more next => scanner.feed next rest
        | .done header => .done header rest
        | .failed error => .failed error rest
        | .refused error => .failed error (Bytes.lineFeed :: rest)
      else .failed receiver.lineTooLong rest := by
  rw [Scanner.feed_append_of_scan (scan_of_notMem notIn empty), Scanner.feed, accept_lineFeed]
  by_cases within : (Line.content raw).length ≤ receiver.lineLimit
  · simp only [reading_line, reading_lineLimit, within, if_true]
    cases (receiver.reading raw).endLine (Line.content raw) <;> rfl
  · simp [within]

theorem endOf_feed_last (notIn : Bytes.lineFeed ∉ raw) (empty : receiver.line = #[])
    (started : receiver.taken + raw.length ≠ 0) :
    endOf (scanner.feed receiver raw) =
      .error (HeaderBlock.unfinished receiver.lineName receiver.lineLimit raw) := by
  simp only [Scanner.feed_eq_endSegment_scan, scan_of_notMem notIn empty, HeaderBlock.unfinished]
  have hasStarted : (receiver.reading raw).hasStarted = true := by
    simpa [hasStarted, reading] using started
  by_cases tooLong : receiver.lineLimit + 1 < raw.length
  · have due : scanner.atSegmentEnd (receiver.reading raw) = some receiver.lineTooLong :=
      atSegmentEnd_eq_some_iff.mpr ⟨by simpa [Line.isTooLong] using tooLong, rfl⟩
    simp [Scanner.endSegment, due, endOf, lineTooLong, tooLong]
  · have silent : scanner.atSegmentEnd (receiver.reading raw) = none := by
      simpa [scanner, Line.isTooLong] using tooLong
    simp [Scanner.endSegment, silent, endOf, cutError, hasStarted, tooLong]

theorem addField_ofFields (limits : Limits) {earlier : List Field}
    (sound : Field.AreSound earlier) (line : Bytes) :
    addField limits earlier.length (.ofFields earlier) line =
      (HeaderBlock.readField limits earlier line).map fun field =>
        .ofFields (earlier ++ [field]) := by
  simp only [addField, HeaderBlock.readField]
  by_cases full : limits.fieldCount ≤ earlier.length
  · simp [full, Except.map]
  · cases read : Field.ofLine line with
    | error defect => simp [full, Except.map]
    | ok field =>
        cases defect : Field.defect? earlier field <;>
          simp [full, FieldsSoFar.add_ofFields sound, defect, Except.map]

theorem areSound_of_readField {limits : Limits} {earlier : List Field} {line : Bytes}
    {field : Field} (sound : Field.AreSound earlier)
    (read : HeaderBlock.readField limits earlier line = .ok field) :
    Field.AreSound (earlier ++ [field]) := by
  simp only [HeaderBlock.readField] at read
  split at read
  · cases read
  · split at read
    · cases read
    · split at read
      · cases read
      · cases read
        exact Field.areSound_append.mpr ⟨sound, ‹_›⟩

def atField (kind : Kind) (limits : Limits) (startLine : Bytes) (earlier : List Field)
    (taken : Nat) : Receiver :=
  ⟨kind, limits, .field startLine earlier.length (.ofFields earlier), #[], taken⟩

theorem endLine_atField_blank (kind : Kind) (limits : Limits) (startLine raw : Bytes)
    (earlier : List Field) (taken : Nat) :
    ((atField kind limits startLine earlier taken).reading raw).endLine [] =
      match (BodyClaims.ofFields earlier).framing with
      | .error error => .failed error
      | .ok framing =>
          .done ⟨startLine, Field.forwarded earlier, taken + raw.length + 1, framing⟩ := by
  cases framing : (BodyClaims.ofFields earlier).framing <;>
    simp [endLine, reading, atField, FieldsSoFar.ofFields, framing]

theorem endLine_atField (kind : Kind) (limits : Limits) (startLine raw : Bytes)
    {earlier : List Field} (sound : Field.AreSound earlier) (taken : Nat) {content : Bytes}
    (nonempty : content ≠ []) :
    ((atField kind limits startLine earlier taken).reading raw).endLine content =
      match HeaderBlock.readField limits earlier content with
      | .error error => .failed error
      | .ok field =>
          .more (atField kind limits startLine (earlier ++ [field])
            (taken + raw.length + 1)) := by
  have added := addField_ofFields limits sound content
  cases read : HeaderBlock.readField limits earlier content <;>
    simp [endLine, reading, atField, nonempty, added, read, Except.map, atLineStart]

theorem endOf_feed_atField (kind : Kind) (limits : Limits) (startLine bytes : Bytes)
    {earlier : List Field} (sound : Field.AreSound earlier) {taken : Nat} (started : 0 < taken) :
    endOf (scanner.feed (atField kind limits startLine earlier taken) bytes) =
      HeaderBlock.conclude startLine (taken + bytes.length) (Line.cut bytes).2
        (HeaderBlock.readFields limits (Line.cut bytes).2 earlier (Line.cut bytes).1) := by
  induction bytes using Line.induction generalizing earlier taken with
  | last raw notIn =>
      have begun : (atField kind limits startLine earlier taken).taken + raw.length ≠ 0 := by
        simp only [atField]
        omega
      simp only [endOf_feed_last notIn rfl begun, Line.cut_of_notMem notIn]
      rfl
  | line raw rest notIn ih =>
      have total : taken + (raw ++ Bytes.lineFeed :: rest).length =
          taken + raw.length + 1 + rest.length := by
        simp only [List.length_append, List.length_cons]
        omega
      have limit : (atField kind limits startLine earlier taken).lineLimit = limits.fieldSize := rfl
      rw [feed_line notIn rfl, Line.cut_line notIn, HeaderBlock.readFields, total, limit]
      by_cases within : (Line.content raw).length ≤ limits.fieldSize
      · simp only [within, if_true, Nat.not_lt_of_le within, if_false]
        by_cases blank : Line.content raw = []
        · rw [blank, endLine_atField_blank, if_pos rfl, HeaderBlock.conclude]
          cases (BodyClaims.ofFields earlier).framing with
          | error error => rfl
          | ok framing => simp [endOf, Line.uncut_cut]
        · simp only [endLine_atField kind limits startLine raw sound taken blank, if_neg blank]
          cases read : HeaderBlock.readField limits earlier (Line.content raw) with
          | error error => rfl
          | ok field =>
              exact ih (areSound_of_readField sound read) (Nat.succ_pos _)
      · simp only [within, if_false, Nat.lt_of_not_le within, if_true]
        rfl

/-- A receiver that is fed a byte string comes to what the one-shot reading finds. -/
theorem endOf_feed_start (kind : Kind) (limits : Limits) (bytes : Bytes) :
    endOf (scanner.feed (.start kind limits) bytes) = HeaderBlock.read kind limits bytes := by
  induction bytes using Line.induction with
  | last raw notIn =>
      simp only [HeaderBlock.read_last notIn]
      by_cases empty : raw = []
      · subst raw
        rfl
      · have started : (start kind limits).taken + raw.length ≠ 0 := by
          simp [start, empty]
        simp only [endOf_feed_last notIn rfl started, if_neg empty]
        rfl
  | line raw rest notIn _ =>
      have limit : (start kind limits).lineLimit = limits.startLineSize := rfl
      rw [feed_line notIn rfl, HeaderBlock.read_line notIn, limit]
      by_cases within : (Line.content raw).length ≤ limits.startLineSize
      · simp only [HeaderBlock.startError?, within, if_true, Nat.not_lt_of_le within, if_false]
        cases defect : StartLine.defect? kind (Line.content raw) with
        | some defect => simp [endLine, reading, start, defect, endOf]
        | none =>
            have ended : ((start kind limits).reading raw).endLine (Line.content raw) =
                .more (atField kind limits (Line.content raw) [] (raw.length + 1)) := by
              simp [endLine, reading, start, defect, atLineStart, atField]
              rfl
            simp only [ended]
            exact endOf_feed_atField kind limits _ rest Field.areSound_nil (Nat.succ_pos _)
      · simp only [HeaderBlock.startError?, within, if_false, Nat.lt_of_not_le within, if_true]
        rfl

end Receiver

end HttpRelay
