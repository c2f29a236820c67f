import HttpRelay.Proofs.Message.LineGrammar
import HttpRelay.Proofs.Message.OneShot
import HttpRelay.Proofs.Stream.Arrival

/-!
# The grammar of headers

Which byte strings are header blocks, and which header each stands for, without an order in
which anything is read. A block is a start line, field lines, and a blank line. What it
forwards is a function of the list of its fields, and whether these are acceptable is a
property of the list. The one-shot reading accepts exactly the byte strings that begin with a
block, and leaves what comes after it; a receiver does the same with any segments.
-/

namespace HttpRelay

namespace HeaderBlock

variable {kind : Kind} {limits : Limits} {fields earlier more : List Field} {raw rest bytes : Bytes}

/-- The field lines of a header and the blank line behind them. -/
inductive IsFields (limits : Limits) : Bytes → List Field → Prop where
  | blank {line : Bytes} (isLine : Line.IsWhole limits.fieldSize [] line) : IsFields limits line []
  | field {content line others : Bytes} {field : Field} {fields : List Field}
      (isLine : Line.IsWhole limits.fieldSize content line) (isField : field.IsLine content)
      (isOthers : IsFields limits others fields) :
      IsFields limits (line ++ others) (field :: fields)

/-- A whole header block with the fields that it holds, and the header that it stands for. -/
structure Accepts (kind : Kind) (limits : Limits) (block : Bytes) (fields : List Field)
    (header : Header) : Prop where
  lines : ∃ line others, block = line ++ others ∧
    Line.IsWhole limits.startLineSize header.startLine line ∧ IsFields limits others fields
  startLine : StartLine.IsWellFormed kind header.startLine
  count : fields.length ≤ limits.fieldCount
  sound : Field.AreSound fields
  framed : Field.Frames fields header.framing
  forwarded : header.fields = Field.forwarded fields
  receivedLength : header.receivedLength = block.length

/-- Bytes that begin with field lines and a blank line, and what comes behind these. -/
def FieldsThen (limits : Limits) (fields : List Field) (rest bytes : Bytes) : Prop :=
  ∃ lines, bytes = lines ++ rest ∧ IsFields limits lines fields

theorem not_fieldsThen_of_notMem (notIn : Bytes.lineFeed ∉ raw) :
    ¬FieldsThen limits fields rest raw := by
  rintro ⟨lines, rfl, isFields⟩
  cases isFields with
  | blank isLine =>
      rcases isLine with ⟨_, _, rfl, _⟩
      simp at notIn
  | field isLine isField isOthers =>
      rcases isLine with ⟨_, _, rfl, _⟩
      simp at notIn

theorem fieldsThen_line_iff (notIn : Bytes.lineFeed ∉ raw) :
    FieldsThen limits fields rest (raw ++ Bytes.lineFeed :: bytes) ↔
      (Line.content raw).length ≤ limits.fieldSize ∧
        ((Line.content raw = [] ∧ fields = [] ∧ rest = bytes) ∨
          ∃ field others, field.IsLine (Line.content raw) ∧ fields = field :: others ∧
            FieldsThen limits others rest bytes) := by
  constructor
  · rintro ⟨lines, bytesEq, isFields⟩
    cases isFields with
    | blank isLine =>
        rcases isLine with ⟨line, lineNotIn, rfl, content, within⟩
        rw [List.append_assoc, List.singleton_append, Text.append_separator_inj notIn lineNotIn]
          at bytesEq
        rcases bytesEq with ⟨rfl, rfl⟩
        rw [content]
        exact ⟨within, Or.inl ⟨rfl, rfl, rfl⟩⟩
    | field isLine isField isOthers =>
        rcases isLine with ⟨line, lineNotIn, rfl, rfl, within⟩
        rw [List.append_assoc, List.append_assoc, List.singleton_append,
          Text.append_separator_inj notIn lineNotIn] at bytesEq
        rcases bytesEq with ⟨rfl, rfl⟩
        exact ⟨within, Or.inr ⟨_, _, isField, rfl, _, rfl, isOthers⟩⟩
  · rintro ⟨within, ⟨blank, rfl, rfl⟩ | ⟨field, others, isField, rfl, lines, rfl, isFields⟩⟩
    · refine ⟨raw ++ [Bytes.lineFeed], by simp, .blank ⟨raw, notIn, rfl, blank, ?_⟩⟩
      exact Nat.zero_le _
    · refine ⟨raw ++ [Bytes.lineFeed] ++ lines, by simp, ?_⟩
      exact .field ⟨raw, notIn, rfl, rfl, within⟩ isField isFields

theorem readField_eq_ok_iff {content : Bytes} {field : Field} :
    readField limits earlier content = .ok field ↔
      earlier.length < limits.fieldCount ∧ field.IsLine content ∧
        Field.defect? earlier field = none := by
  rw [readField, ← Field.ofLine_eq_ok_iff]
  constructor
  · intro read
    split at read
    · cases read
    · split at read
      · cases read
      · split at read
        · cases read
        · cases read
          exact ⟨Nat.lt_of_not_le ‹_›, ‹_›, ‹_›⟩
  · rintro ⟨few, isField, flawless⟩
    simp only [if_neg (Nat.not_le_of_lt few), isField]
    simp [flawless]

theorem readFields_eq_ok_iff (sound : Field.AreSound earlier)
    (few : earlier.length ≤ limits.fieldCount) :
    (∃ others,
        readFields limits (Line.cut bytes).2 earlier (Line.cut bytes).1 = .ok (fields, others) ∧
          Line.uncut others (Line.cut bytes).2 = rest) ↔
      ∃ more, fields = earlier ++ more ∧ FieldsThen limits more rest bytes ∧
        Field.AreSound fields ∧ fields.length ≤ limits.fieldCount := by
  induction bytes using Line.induction generalizing earlier with
  | last raw notIn =>
      simp only [Line.cut_of_notMem notIn]
      constructor
      · rintro ⟨others, read, _⟩
        cases read
      · rintro ⟨more, _, isFields, _⟩
        exact absurd isFields (not_fieldsThen_of_notMem notIn)
  | line raw bytes notIn ih =>
      simp only [Line.cut_line notIn, readFields, fieldsThen_line_iff notIn]
      by_cases within : (Line.content raw).length ≤ limits.fieldSize
      · by_cases blank : Line.content raw = []
        · -- A blank line ends the fields, and it is no field line.
          simp only [blank, List.length_nil, Nat.not_lt_zero, if_false, if_true, Nat.zero_le,
            true_and, Field.not_isLine_nil, false_and, exists_false, or_false, Except.ok.injEq,
            Prod.mk.injEq]
          constructor
          · rintro ⟨others, ⟨rfl, rfl⟩, rfl⟩
            exact ⟨[], (List.append_nil _).symm, ⟨rfl, Line.uncut_cut bytes⟩, sound, few⟩
          · rintro ⟨more, rfl, ⟨rfl, rfl⟩, _, _⟩
            exact ⟨_, ⟨(List.append_nil _).symm, rfl⟩, Line.uncut_cut _⟩
        · -- The field is read with those before it, and joins them for those behind it.
          simp only [Nat.not_lt_of_le within, if_false, blank, within, true_and, false_and,
            false_or]
          constructor
          · rintro ⟨others, read, uncut⟩
            cases fieldRead : readField limits earlier (Line.content raw) with
            | error error => simp [fieldRead] at read
            | ok field =>
                simp only [fieldRead] at read
                rcases readField_eq_ok_iff.mp fieldRead with ⟨room, isField, flawless⟩
                have nextSound := Field.areSound_append.mpr ⟨sound, flawless⟩
                have nextFew : (earlier ++ [field]).length ≤ limits.fieldCount := by
                  simp only [List.length_append, List.length_singleton]
                  omega
                rcases (ih nextSound nextFew).mp ⟨others, read, uncut⟩ with
                  ⟨more, rfl, isFields, allSound, allFew⟩
                exact ⟨field :: more, (List.append_cons _ _ _).symm,
                  ⟨field, more, isField, rfl, isFields⟩, allSound, allFew⟩
          · rintro ⟨_, fieldsEq, ⟨field, more, isField, rfl, isFields⟩, allSound, allFew⟩
            rw [List.append_cons] at fieldsEq
            subst fieldsEq
            have nextSound := allSound.of_append
            have nextFew : (earlier ++ [field]).length ≤ limits.fieldCount := by
              rw [List.length_append] at allFew
              omega
            have room : earlier.length < limits.fieldCount := by
              simp only [List.length_append, List.length_singleton] at nextFew
              omega
            have flawless := (Field.areSound_append.mp nextSound).2
            simp only [readField_eq_ok_iff.mpr ⟨room, isField, flawless⟩]
            exact (ih nextSound nextFew).mpr ⟨more, rfl, isFields, allSound, allFew⟩
      · simp only [Nat.lt_of_not_le within, if_true, reduceCtorEq, false_and, exists_false,
          within, and_false]

theorem startError?_eq_none_iff {line : Bytes} :
    startError? kind limits line = none ↔
      line.length ≤ limits.startLineSize ∧ StartLine.IsWellFormed kind line := by
  rw [startError?, ← StartLine.defect?_eq_none_iff]
  by_cases within : line.length ≤ limits.startLineSize
  · simp [within, Nat.not_lt_of_le within]
  · simp [within, Nat.lt_of_not_le within]

theorem conclude_eq_ok_iff {startLine last : Bytes} {total : Nat} {header : Header}
    {read : Except HeaderError (List Field × List Bytes)} :
    conclude startLine total last read = .ok (header, rest) ↔
      ∃ fields framing, (∃ others, read = .ok (fields, others) ∧ Line.uncut others last = rest) ∧
        (BodyClaims.ofFields fields).framing = .ok framing ∧
        header = ⟨startLine, Field.forwarded fields, total - rest.length, framing⟩ := by
  constructor
  · intro concluded
    cases read with
    | error error => cases concluded
    | ok result =>
        simp only [conclude] at concluded
        split at concluded
        · cases concluded
        · cases concluded
          exact ⟨_, _, ⟨_, rfl, rfl⟩, ‹_›, rfl⟩
  · rintro ⟨fields, framing, ⟨others, rfl, rfl⟩, framed, rfl⟩
    simp [conclude, framed]

/-- The one-shot reading accepts exactly the byte strings that begin with a header block. -/
theorem read_eq_ok_iff {header : Header} :
    read kind limits bytes = .ok (header, rest) ↔
      ∃ block fields, bytes = block ++ rest ∧ Accepts kind limits block fields header := by
  rcases Text.notMem_or_exists_first Bytes.lineFeed bytes with notIn | ⟨raw, tail, notIn, rfl⟩
  · simp only [read_last notIn]
    constructor
    · intro impossible
      cases impossible
    · rintro ⟨block, fields, rfl, accepts⟩
      rcases accepts.lines with ⟨_, others, rfl, ⟨_, _, rfl, _⟩, _⟩
      simp at notIn
  · simp only [read_line notIn]
    constructor
    · intro read
      cases start : startError? kind limits (Line.content raw) with
      | some error => simp [start] at read
      | none =>
          simp only [start] at read
          rcases conclude_eq_ok_iff.mp read with ⟨fields, framing, fieldsRead, framed, rfl⟩
          rcases (readFields_eq_ok_iff Field.areSound_nil (Nat.zero_le _)).mp fieldsRead with
            ⟨_, rfl, ⟨lines, rfl, isFields⟩, sound, count⟩
          rcases startError?_eq_none_iff.mp start with ⟨within, wellFormed⟩
          refine ⟨raw ++ [Bytes.lineFeed] ++ lines, fields, by simp, ?_⟩
          exact
            { lines := ⟨_, lines, rfl, ⟨raw, notIn, rfl, rfl, within⟩, isFields⟩
              startLine := wellFormed
              count := count
              sound := sound
              framed := (BodyClaims.framing_ofFields_eq_ok_iff sound).mp framed
              forwarded := rfl
              receivedLength := by
                simp only [List.length_append, List.length_singleton]
                omega }
    · rintro ⟨block, fields, bytesEq, accepts⟩
      rcases accepts.lines with ⟨_, lines, rfl, ⟨line, lineNotIn, rfl, content, within⟩, isFields⟩
      rw [List.append_assoc, List.append_assoc, List.singleton_append,
        Text.append_separator_inj notIn lineNotIn] at bytesEq
      rcases bytesEq with ⟨rfl, rfl⟩
      have start : startError? kind limits (Line.content raw) = none := by
        simp only [startError?_eq_none_iff, content]
        exact ⟨within, accepts.startLine⟩
      simp only [start]
      refine conclude_eq_ok_iff.mpr ⟨fields, header.framing, ?_, ?_, ?_⟩
      · apply (readFields_eq_ok_iff Field.areSound_nil (Nat.zero_le _)).mpr
        exact ⟨fields, rfl, ⟨lines, rfl, isFields⟩, accepts.sound, accepts.count⟩
      · exact (BodyClaims.framing_ofFields_eq_ok_iff accepts.sound).mpr accepts.framed
      · have length : raw.length + 1 + (lines ++ rest).length - rest.length =
            header.receivedLength := by
          simp only [accepts.receivedLength]
          simp only [List.length_append, List.length_singleton]
          omega
        rw [length, content, ← accepts.forwarded]

end HeaderBlock

namespace Receiver

section Receiving

variable {kind : Kind} {limits : Limits} {source : Source} {bytes rest : Bytes} {header : Header}

/-- A receiver comes to a header exactly if the bytes begin with its block. -/
theorem scan_start_eq_done_iff :
    scanner.scan (.start kind limits) bytes = .done header rest ↔
      ∃ block fields, bytes = block ++ rest ∧
        HeaderBlock.Accepts kind limits block fields header := by
  rw [← HeaderBlock.read_eq_ok_iff, ← endOf_feed_start, ← Scanner.feed_eq_done_iff]
  cases scanner.feed (.start kind limits) bytes <;> simp [endOf]

/-- A receiver over a source comes to a header, and leaves the given bytes, exactly if the
source begins with its block. -/
theorem read_start_eq_done_iff :
    (∃ time items,
        scanner.read (.start kind limits) source = ⟨time, .done header, items⟩ ∧
          Source.bytesOf items = rest) ↔
      ∃ block fields, source.unread = block ++ rest ∧
        HeaderBlock.Accepts kind limits block fields header := by
  rw [← scan_start_eq_done_iff]
  have within : (start kind limits).LineWithinTaken := Nat.zero_le _
  apply steady_scanner.run_done_iff within
  · intro _ _ _
    rfl
  · -- A receiver waits without giving up.
    intro _ first stop _ _
    rfl

end Receiving

end Receiver

end HttpRelay
