import HttpRelay.Proofs.Message.Lines
import HttpRelay.Proofs.Stream.Calling

/-!
# Reading a line

A line that is read to the end of a buffer, from a stream that comes in segments. What becomes of
it is decided by the bytes of the stream alone (`Line.Reads`), although a line without its line feed
is judged at the end of every segment: the loose judgement there only anticipates the exact one
(`Line.reads_of_length_lt`). The reader takes exactly what it appends, it does not ask for another
segment once it has more than one byte beyond the limit, and what was in the buffer before is
neither changed nor counted.

The argument goes by the line that is begun. While it can still end within the limit, the run over
the next segment ends in one of three ways (`isRead_cut`, `isRead_beyond`, `isRead_lineFeed`) or is
a run that goes on with a longer line (`IsRead.of_segment`).
-/

namespace HttpRelay

universe u v w

/-- A scanner goes through segments, with none of its errors, and asks for what comes next. -/
inductive Scanner.Passes {State : Type u} {Value : Type v} {Error : Type w}
    (scanner : Scanner State Value Error) : State → List Bytes → State → Prop where
  | nil (state : State) : Passes scanner state [] state
  | cons {state next last : State} {segment : Bytes} {segments : List Bytes}
      (fed : scanner.feed state segment = .more next) (passes : Passes scanner next segments last) :
      Passes scanner state (segment :: segments) last

theorem Scanner.Passes.run {State : Type u} {Value : Type v} {Error : Type w}
    {scanner : Scanner State Value Error} {state stop : State} {earlier : List Bytes}
    (passes : scanner.Passes state earlier stop) (alarm : Alarm State Error)
    (ending : Source.Ending) (now : Nat) (later : List Source.Item) :
    scanner.run alarm ending now state (earlier.map .segment ++ later) =
      scanner.run alarm ending now stop later := by
  induction passes with
  | nil state => rfl
  | cons fed passes ih =>
      rw [List.map_cons, List.cons_append, Scanner.run]
      simp only [fed]
      exact ih

namespace Line

variable {limit : Nat} {held : Array UInt8} {cut : Cut} {line raw front rest stream taken : Bytes}
  {segments left : List Bytes} {result other : Except Error Nat} {stop : Buffer}

/-- A line that was begun behind what a buffer held. -/
def Buffer.holding (held : Array UInt8) (line : Bytes) : Buffer :=
  ⟨held ++ line.toArray, held.size, by simp⟩

/-- What the reading of a line comes to, by all the bytes of the stream and its end. -/
inductive Reads (limit : Nat) (cut : Cut) : Bytes → Except Error Nat → Prop where
  | line {raw : Bytes} (rest : Bytes) (isFirst : Bytes.lineFeed ∉ raw)
      (within : (content raw).length ≤ limit) :
      Reads limit cut (raw ++ Bytes.lineFeed :: rest) (.ok (raw.length + 1))
  | longLine {raw : Bytes} (rest : Bytes) (isFirst : Bytes.lineFeed ∉ raw)
      (beyond : limit < (content raw).length) :
      Reads limit cut (raw ++ Bytes.lineFeed :: rest) (.error .tooLong)
  | endless {stream : Bytes} (unfinished : Bytes.lineFeed ∉ stream)
      (beyond : limit + 1 < stream.length) : Reads limit cut stream (.error .tooLong)
  | ended {stream : Bytes} (unfinished : Bytes.lineFeed ∉ stream)
      (within : stream.length ≤ limit + 1) : Reads limit cut stream (.error (.cut cut))

/-- Bytes that are taken from segments, and the segments that are left: what is behind the last of
the bytes stays as it is divided. -/
inductive Takes : List Bytes → Bytes → List Bytes → Prop where
  | nothing : Takes [] [] []
  | within (head tail : Bytes) (segments : List Bytes) :
      Takes ((head ++ tail) :: segments) head (tail :: segments)
  | whole (segment : Bytes) {segments : List Bytes} {taken : Bytes} {left : List Bytes}
      (takes : Takes segments taken left) : Takes (segment :: segments) (segment ++ taken) left

/-- What the reading of a line has come to. -/
def resultOf : Outcome Buffer Appended Abandoned → Option (Except Error Nat)
  | .done appended => some (.ok appended.count)
  | .failed abandoned => some (.error abandoned.error)
  | .waiting _ => none

def bufferOf : Outcome Buffer Appended Abandoned → Buffer
  | .done appended => appended.buffer
  | .failed abandoned => abandoned.buffer
  | .waiting buffer => buffer

section Verdicts

theorem reads_lineFeed_iff (isFirst : Bytes.lineFeed ∉ raw) :
    Reads limit cut (raw ++ Bytes.lineFeed :: rest) result ↔
      result = if (content raw).length ≤ limit then .ok (raw.length + 1) else .error .tooLong := by
  constructor
  · intro reads
    generalize same : raw ++ Bytes.lineFeed :: rest = bytes at reads
    cases reads with
    | line more first within =>
        obtain ⟨rfl, -⟩ := (Text.append_separator_inj isFirst first).mp same
        rw [if_pos within]
    | longLine more first beyond =>
        obtain ⟨rfl, -⟩ := (Text.append_separator_inj isFirst first).mp same
        rw [if_neg (Nat.not_le_of_lt beyond)]
    | endless unfinished _ | ended unfinished _ => exact absurd (by simp [← same]) unfinished
  · rintro rfl
    by_cases within : (content raw).length ≤ limit
    · rw [if_pos within]
      exact .line rest isFirst within
    · rw [if_neg within]
      exact .longLine rest isFirst (Nat.lt_of_not_le within)

theorem reads_unfinished_iff (unfinished : Bytes.lineFeed ∉ stream) :
    Reads limit cut stream result ↔
      result = .error (if stream.length ≤ limit + 1 then .cut cut else .tooLong) := by
  constructor
  · intro reads
    cases reads with
    | line rest isFirst _ | longLine rest isFirst _ => exact absurd (by simp) unfinished
    | endless _ beyond => rw [if_neg (Nat.not_le_of_lt beyond)]
    | ended _ within => rw [if_pos within]
  · rintro rfl
    by_cases within : stream.length ≤ limit + 1
    · rw [if_pos within]
      exact .ended unfinished within
    · rw [if_neg within]
      exact .endless unfinished (Nat.lt_of_not_le within)

theorem Reads.unique (reads : Reads limit cut stream result)
    (alsoReads : Reads limit cut stream other) : other = result := by
  rcases Text.notMem_or_exists_first Bytes.lineFeed stream with notIn | ⟨raw, rest, notIn, rfl⟩
  · rw [reads_unfinished_iff notIn] at reads alsoReads
    exact alsoReads.trans reads.symm
  · rw [reads_lineFeed_iff notIn] at reads alsoReads
    exact alsoReads.trans reads.symm

/-- One byte more than the limit is too many, whatever comes: if it was the carriage return of the
terminator, there would be no byte after it but the line feed. -/
theorem reads_of_length_lt (unfinished : Bytes.lineFeed ∉ front)
    (beyond : limit + 1 < front.length) (rest : Bytes) :
    Reads limit cut (front ++ rest) (.error .tooLong) := by
  rcases Text.notMem_or_exists_first Bytes.lineFeed rest with notIn | ⟨raw, behind, notIn, rfl⟩
  · apply Reads.endless (List.not_mem_append unfinished notIn)
    rw [List.length_append]
    omega
  · rw [← List.append_assoc]
    apply Reads.longLine behind (List.not_mem_append unfinished notIn)
    have longer := length_le_length_content_add_one (front ++ raw)
    rw [List.length_append] at longer
    omega

/-- The bound on an unfinished line, where no number is greater than `greatest`. -/
theorem isTooLong_iff_min {greatest : Nat} {line : Array UInt8} (isNumber : limit ≤ greatest)
    (isHeld : line.size ≤ greatest) :
    isTooLong limit line = true ↔ min (limit + 1) greatest < line.size := by
  rw [isTooLong, decide_eq_true_eq]
  omega

end Verdicts

section Feeding

theorem line_holding (held : Array UInt8) (line : Bytes) :
    (Buffer.holding held line).line = line.toArray := by
  simp [Buffer.holding, Buffer.line]

theorem push_holding (held : Array UInt8) (line : Bytes) (byte : UInt8) :
    (Buffer.holding held line).push byte = Buffer.holding held (line ++ [byte]) := by
  simp [Buffer.holding, Buffer.push]

theorem behind_eq (held : Array UInt8) : Buffer.behind held = Buffer.holding held [] := by
  simp [Buffer.behind, Buffer.holding]

theorem scan_holding (held : Array UInt8) (line : Bytes) (notIn : Bytes.lineFeed ∉ raw) :
    (scanner limit).scan (.holding held line) raw = .more (.holding held (line ++ raw)) := by
  induction raw generalizing line with
  | nil => rw [Scanner.scan_nil, List.append_nil]
  | cons byte raw ih =>
      simp only [List.mem_cons, not_or] at notIn
      have accepted : (scanner limit).accept (.holding held line) byte =
          .more (.holding held (line ++ [byte])) := by
        simp [scanner, accept, Ne.symm notIn.1, push_holding]
      rw [Scanner.scan_cons_of_more accepted, ih _ notIn.2, List.append_assoc,
        List.singleton_append]

theorem accept_lineFeed (limit : Nat) (held : Array UInt8) (line : Bytes) :
    (scanner limit).accept (.holding held line) Bytes.lineFeed =
      if (content line).length ≤ limit then
        .done ⟨.holding held (line ++ [Bytes.lineFeed]), line.length + 1⟩
      else .failed ⟨.holding held (line ++ [Bytes.lineFeed]), .tooLong⟩ := by
  simp only [scanner, accept, beq_self_eq_true, if_true, line_holding, push_holding]
  by_cases within : (content line).length ≤ limit <;> simp [within]

/-- A segment that has no line feed. -/
theorem feed_holding (limit : Nat) (held : Array UInt8) (line : Bytes)
    (notIn : Bytes.lineFeed ∉ raw) :
    (scanner limit).feed (.holding held line) raw =
      if limit + 1 < (line ++ raw).length then
        .failed ⟨.holding held (line ++ raw), .tooLong⟩ []
      else .more (.holding held (line ++ raw)) := by
  rw [Scanner.feed_eq_endSegment_scan, scan_holding held line notIn]
  simp only [Scanner.endSegment, scanner, line_holding, isTooLong, List.size_toArray,
    decide_eq_true_eq]
  by_cases beyond : limit + 1 < (line ++ raw).length <;> simp only [beyond, if_true, if_false]

/-- A segment with a line feed ends the line, and what is behind it is left. -/
theorem feed_lineFeed (limit : Nat) (held : Array UInt8) (line : Bytes)
    (notIn : Bytes.lineFeed ∉ raw) (rest : Bytes) :
    (scanner limit).feed (.holding held line) (raw ++ Bytes.lineFeed :: rest) =
      if (content (line ++ raw)).length ≤ limit then
        .done ⟨.holding held (line ++ raw ++ [Bytes.lineFeed]), (line ++ raw).length + 1⟩ rest
      else .failed ⟨.holding held (line ++ raw ++ [Bytes.lineFeed]), .tooLong⟩ rest := by
  rw [Scanner.feed_append_of_scan (scan_holding held line notIn), Scanner.feed, accept_lineFeed]
  by_cases within : (content (line ++ raw)).length ≤ limit <;> simp only [within, if_true, if_false]

end Feeding

section Reading

theorem Takes.append_flatten (takes : Takes segments taken left) :
    taken ++ left.flatten = segments.flatten := by
  induction takes with
  | nothing => rfl
  | within head tail segments => simp
  | whole segment takes ih => rw [List.append_assoc, ih, List.flatten_cons]

/-- What a run has come to that goes on with a line: its result, the bytes that it took and the
segments that it left. -/
structure IsRead (limit : Nat) (held : Array UInt8) (cut : Cut) (line : Bytes)
    (segments : List Bytes) (result : Except Error Nat) (taken : Bytes) (left : List Bytes)
    (run : Run Buffer Appended Abandoned) : Prop where
  came : resultOf run.outcome = some result
  reads : Reads limit cut (line ++ segments.flatten) result
  takes : Takes segments taken left
  unread : run.items = left.map .segment
  appended : bufferOf run.outcome = .holding held (line ++ taken)
  counted : ∀ count, result = .ok count → count = (line ++ taken).length
  /-- All that was appended but what came of the last segment is within the limit and one byte. -/
  bounded : ∃ segment ∈ [] :: segments, (line ++ taken).length ≤ limit + 1 + segment.length

variable {segment : Bytes} {run : Run Buffer Appended Abandoned}

theorem IsRead.of_segment (isRead : IsRead limit held cut (line ++ segment) segments result taken
      left run) :
    IsRead limit held cut line (segment :: segments) result (segment ++ taken) left run where
  came := isRead.came
  reads := by
    rw [List.flatten_cons, ← List.append_assoc]
    exact isRead.reads
  takes := .whole segment isRead.takes
  unread := isRead.unread
  appended := by
    rw [← List.append_assoc]
    exact isRead.appended
  counted := by
    rw [← List.append_assoc]
    exact isRead.counted
  bounded := by
    rcases isRead.bounded with ⟨last, isIn, within⟩
    rw [← List.append_assoc]
    rcases List.mem_cons.mp isIn with rfl | isIn
    · exact ⟨[], List.mem_cons_self, within⟩
    · exact ⟨last, List.mem_cons_of_mem _ (List.mem_cons_of_mem _ isIn), within⟩

theorem isRead_cut (unfinished : Bytes.lineFeed ∉ line) (within : line.length ≤ limit + 1)
    (held : Array UInt8) (now : Nat) :
    IsRead limit held cut line [] (.error (.cut cut)) [] []
      ⟨now, .failed ⟨.holding held line, .cut cut⟩, []⟩ where
  came := rfl
  reads := by
    rw [List.flatten_nil, List.append_nil]
    exact .ended unfinished within
  takes := .nothing
  unread := rfl
  appended := by rw [bufferOf, List.append_nil]
  counted := by simp
  bounded := ⟨[], List.mem_cons_self, by simpa using within⟩

theorem isRead_beyond (unfinished : Bytes.lineFeed ∉ line ++ segment)
    (within : line.length ≤ limit + 1) (beyond : limit + 1 < (line ++ segment).length)
    (held : Array UInt8) (now : Nat) :
    IsRead limit held cut line (segment :: segments) (.error .tooLong) segment ([] :: segments)
      ⟨now, .failed ⟨.holding held (line ++ segment), .tooLong⟩,
        .segment [] :: segments.map .segment⟩ where
  came := rfl
  reads := by
    rw [List.flatten_cons, ← List.append_assoc]
    exact reads_of_length_lt unfinished beyond segments.flatten
  takes := by simpa using Takes.within segment [] segments
  unread := rfl
  appended := rfl
  counted := by simp
  bounded := by
    refine ⟨segment, by simp, ?_⟩
    rw [List.length_append]
    omega

/-- A line feed ends the reading with a result, whichever that is. -/
theorem isRead_lineFeed {outcome : Outcome Buffer Appended Abandoned}
    (isFirst : Bytes.lineFeed ∉ line ++ raw) (within : line.length ≤ limit + 1)
    (came : resultOf outcome = some
      (if (content (line ++ raw)).length ≤ limit then .ok ((line ++ raw).length + 1)
        else .error .tooLong))
    (appended : bufferOf outcome = .holding held (line ++ raw ++ [Bytes.lineFeed])) (now : Nat) :
    IsRead limit held cut line ((raw ++ Bytes.lineFeed :: rest) :: segments)
      (if (content (line ++ raw)).length ≤ limit then .ok ((line ++ raw).length + 1)
        else .error .tooLong)
      (raw ++ [Bytes.lineFeed]) (rest :: segments)
      ⟨now, outcome, .segment rest :: segments.map .segment⟩ where
  came := came
  reads := by
    have stream : line ++ ((raw ++ Bytes.lineFeed :: rest) :: segments).flatten =
        line ++ raw ++ Bytes.lineFeed :: (rest ++ segments.flatten) := by
      simp
    rw [stream, reads_lineFeed_iff isFirst]
  takes := by simpa using Takes.within (raw ++ [Bytes.lineFeed]) rest segments
  unread := rfl
  appended := by
    rw [← List.append_assoc]
    exact appended
  counted := by
    intro count counted
    split at counted
    · cases counted
      simp
      omega
    · cases counted
  bounded := by
    refine ⟨raw ++ Bytes.lineFeed :: rest, by simp, ?_⟩
    simp only [List.length_append, List.length_cons, List.length_nil]
    omega

/-- A line that is within the limit so far is read on through any segments. -/
theorem exists_isRead_run (held : Array UInt8) (now : Nat) (unfinished : Bytes.lineFeed ∉ line)
    (within : line.length ≤ limit + 1) (segments : List Bytes) (cut : Cut) :
    ∃ result taken left, IsRead limit held cut line segments result taken left
      ((scanner limit).run (fun _ _ _ => none) cut.ending now (.holding held line)
        (segments.map .segment)) := by
  induction segments generalizing line with
  | nil =>
      rw [List.map_nil, Scanner.run_cut]
      exact ⟨_, _, _, isRead_cut unfinished within held now⟩
  | cons segment segments ih =>
      rw [List.map_cons, Scanner.run]
      rcases Text.notMem_or_exists_first Bytes.lineFeed segment with notIn | ⟨raw, rest, notIn, rfl⟩
      · rw [feed_holding limit held line notIn]
        have stillUnfinished := List.not_mem_append unfinished notIn
        by_cases beyond : limit + 1 < (line ++ segment).length
        · rw [if_pos beyond]
          exact ⟨_, _, _, isRead_beyond stillUnfinished within beyond held now⟩
        · rw [if_neg beyond]
          rcases ih stillUnfinished (Nat.le_of_not_lt beyond) with ⟨result, taken, left, isRead⟩
          exact ⟨result, segment ++ taken, left, isRead.of_segment⟩
      · rw [feed_lineFeed limit held line notIn]
        have isFirst := List.not_mem_append unfinished notIn
        by_cases fits : (content (line ++ raw)).length ≤ limit
        · rw [if_pos fits]
          exact ⟨_, _, _, isRead_lineFeed isFirst within (by rw [if_pos fits]; rfl) rfl now⟩
        · rw [if_neg fits]
          exact ⟨_, _, _, isRead_lineFeed isFirst within (by rw [if_neg fits]; rfl) rfl now⟩

theorem feed_holding_eq_more_iff {next : Buffer} :
    (scanner limit).feed (.holding held line) segment = .more next ↔
      Bytes.lineFeed ∉ segment ∧ (line ++ segment).length ≤ limit + 1 ∧
        next = .holding held (line ++ segment) := by
  rcases Text.notMem_or_exists_first Bytes.lineFeed segment with notIn | ⟨raw, rest, notIn, rfl⟩
  · rw [feed_holding limit held line notIn]
    by_cases beyond : limit + 1 < (line ++ segment).length
    · rw [if_pos beyond]
      simp only [reduceCtorEq, false_iff, not_and]
      intro _ within
      omega
    · rw [if_neg beyond]
      simp only [notIn, Nat.le_of_not_lt beyond, Scan.more.injEq, not_false_eq_true, true_and]
      exact eq_comm
  · rw [feed_lineFeed limit held line notIn]
    by_cases fits : (content (line ++ raw)).length ≤ limit <;> simp [fits]

/-- The reader asks for what is behind segments exactly while the line can still end, and then it
holds all that they gave. -/
theorem passes_holding_iff (within : line.length ≤ limit + 1) :
    (scanner limit).Passes (.holding held line) segments stop ↔
      Bytes.lineFeed ∉ segments.flatten ∧ (line ++ segments.flatten).length ≤ limit + 1 ∧
        stop = .holding held (line ++ segments.flatten) := by
  induction segments generalizing line with
  | nil =>
      simp only [List.flatten_nil, List.append_nil, List.not_mem_nil, not_false_eq_true, within,
        true_and]
      constructor
      · rintro ⟨⟩
        rfl
      · rintro rfl
        exact .nil _
  | cons segment segments ih =>
      rw [List.flatten_cons, ← List.append_assoc, List.mem_append, not_or]
      constructor
      · rintro (_ | ⟨fed, passes⟩)
        rcases feed_holding_eq_more_iff.mp fed with ⟨notIn, stillWithin, rfl⟩
        rcases (ih stillWithin).mp passes with ⟨notInOthers, othersWithin, stopEq⟩
        exact ⟨⟨notIn, notInOthers⟩, othersWithin, stopEq⟩
      · rintro ⟨⟨notIn, notInOthers⟩, othersWithin, stopEq⟩
        have stillWithin : (line ++ segment).length ≤ limit + 1 := by
          rw [List.length_append] at othersWithin
          omega
        apply Scanner.Passes.cons (feed_holding_eq_more_iff.mpr ⟨notIn, stillWithin, rfl⟩)
        exact (ih stillWithin).mpr ⟨notInOthers, othersWithin, stopEq⟩

/-- What becomes of a line is decided by the bytes of the stream, in whatever segments they come.
The bytes that it takes are appended, and nothing else is changed: neither what the buffer held nor
what is left of the stream. A reader that asks for another segment holds one byte beyond the limit
at most, also where that byte is counted up to the greatest number only. -/
theorem read_by_bytes (limit : Nat) (held : Array UInt8) (segments : List Bytes) (cut : Cut) :
    (∃ result taken left,
      (∀ other, Reads limit cut segments.flatten other ↔ other = result) ∧
      taken ++ left.flatten = segments.flatten ∧
      IsRead limit held cut [] segments result taken left
        ((scanner limit).read (.behind held) (.ofSegments segments cut.ending))) ∧
    (∀ stop, (scanner limit).Passes (.behind held) segments stop ↔
      Bytes.lineFeed ∉ segments.flatten ∧ segments.flatten.length ≤ limit + 1 ∧
        stop = .holding held segments.flatten) ∧
    (∀ stop later, (scanner limit).Passes (.behind held) segments stop →
      (scanner limit).read (.behind held) (.ofSegments (segments ++ later) cut.ending) =
        (scanner limit).read stop (.ofSegments later cut.ending)) ∧
    ∀ greatest, limit ≤ greatest → ∀ line : Array UInt8, line.size ≤ greatest →
      (isTooLong limit line = true ↔ min (limit + 1) greatest < line.size) := by
  refine ⟨?_, ?_, ?_, ?_⟩
  · rw [behind_eq]
    rcases exists_isRead_run held 0 List.not_mem_nil (Nat.zero_le (limit + 1)) segments cut with
      ⟨result, taken, left, isRead⟩
    refine ⟨result, taken, left, ?_, isRead.takes.append_flatten, isRead⟩
    intro other
    constructor
    · exact isRead.reads.unique
    · rintro rfl
      exact isRead.reads
  · intro stop
    rw [behind_eq]
    exact passes_holding_iff (Nat.zero_le (limit + 1))
  · intro stop later passes
    rw [Source.ofSegments, List.map_append]
    exact passes.run _ _ 0 _
  · intro greatest isNumber line isHeld
    exact isTooLong_iff_min isNumber isHeld

/-- The byte beyond the limit belongs to a terminator that comes in two segments. -/
example :
    let source := Source.ofSegments [[97, 98, 13], [10, 99]] .finished
    resultOf ((scanner 2).read (.behind #[42]) source).outcome = some (.ok 4) := by
  rfl

end Reading

end Line

end HttpRelay
