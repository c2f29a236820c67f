import HttpRelay.Proofs.Message.LineReading
import HttpRelay.Proofs.Message.OneShot
import HttpRelay.Proofs.Relay.Steps

/-!
# The lines of headers and bodies

A header and a chunked body read their lines as `Line.scanner` does, each within its own limit, and
differ only in what they make of a line and of its absence. So what is known of that one reader is
known of every line that a relay reads: the bytes of the stream decide what becomes of it
(`Scanner.Calls.exists_reads`).
-/

namespace HttpRelay

universe u v w

namespace Line

theorem line_push (buffer : Buffer) (byte : UInt8) :
    (buffer.push byte).line = buffer.line.push byte := by
  simp [Buffer.line, Buffer.push, Array.extract_push, buffer.isWithin]

/-- The bytes of a line that was read, without its line feed. -/
def Appended.raw (appended : Appended) : Bytes :=
  appended.buffer.line.toList.dropLast

theorem raw_push (buffer : Buffer) (byte : UInt8) (count : Nat) :
    (Appended.mk (buffer.push byte) count).raw = buffer.line.toList := by
  rw [Appended.raw, line_push, Array.toList_push, List.dropLast_concat]

end Line

section Callers

variable {State : Type u} {Value : Type v} {Error : Type w} {caller : Scanner State Value Error}
  {limit : Nat} {into : Line.Buffer → State} {after : Line.Appended → Verdict State Value Error}
  {fail : Line.Abandoned → Error}

/-- A caller that begins a line comes to what the bytes of the stream make of the line. -/
theorem Scanner.Calls.exists_reads (calls : caller.Calls (Line.scanner limit) into after fail)
    (alarm : Alarm State Error) (now : Nat) (held : Array UInt8) (segments : List Bytes)
    (cut : Cut) :
    ∃ result taken left,
      Line.Reads limit cut segments.flatten result ∧ Line.Takes segments taken left ∧
      caller.run alarm cut.ending now (into (.behind held)) (segments.map .segment) =
        match result with
        | .ok count =>
            caller.runFrom alarm cut.ending now (left.map .segment)
              (after ⟨.holding held taken, count⟩)
        | .error error =>
            ⟨now, .failed (fail ⟨.holding held taken, error⟩), left.map .segment⟩ := by
  rw [Line.behind_eq, calls.run]
  rcases Line.exists_isRead_run held now List.not_mem_nil (Nat.zero_le (limit + 1)) segments cut
    with ⟨result, taken, left, isRead⟩
  refine ⟨result, taken, left, isRead.reads, isRead.takes, ?_⟩
  have came := isRead.came
  have appended := isRead.appended
  generalize (Line.scanner limit).run (fun _ _ _ => none) cut.ending now (.holding held [])
    (segments.map .segment) = run at came appended isRead ⊢
  simp only [Scanner.runCalled, isRead.unread]
  cases outcome : run.outcome with
  | done whole =>
      simp only [outcome, Line.resultOf, Line.bufferOf, Option.some.injEq] at came appended
      subst came
      rw [← List.nil_append taken, ← appended]
  | failed abandoned =>
      simp only [outcome, Line.resultOf, Line.bufferOf, Option.some.injEq] at came appended
      subst came
      rw [← List.nil_append taken, ← appended]
  | waiting buffer => simp [outcome, Line.resultOf] at came

end Callers

namespace Receiver

variable {receiver : Receiver}

theorem endLine_ne_refused {content : Bytes} {error : HeaderError} :
    receiver.endLine content ≠ .refused error := by
  simp only [endLine]
  split
  · split <;> simp
  · split
    · split <;> simp
    · split <;> simp

def lineFailure (receiver : Receiver) (abandoned : Line.Abandoned) : HeaderError :=
  match abandoned.error with
  | .tooLong => receiver.lineTooLong
  | .cut cut => (receiver.reading abandoned.buffer.line.toList).cutError cut

theorem calls_line (receiver : Receiver) :
    scanner.Calls (Line.scanner receiver.lineLimit)
      (fun buffer => receiver.reading buffer.line.toList)
      (fun appended => (receiver.reading appended.raw).endLine (Line.content appended.raw))
      receiver.lineFailure where
  accept := by
    intro buffer byte
    have grown : { receiver.reading buffer.line.toList with
          line := buffer.line.push byte, taken := receiver.taken + buffer.line.size + 1 } =
        receiver.reading (buffer.push byte).line.toList := by
      simp only [reading, Line.line_push, Array.toArray_toList, Array.length_toList,
        Array.size_push, Nat.add_assoc]
    simp only [scanner, accept, Line.scanner, reading_lineLimit, reading_line, Array.toArray_toList,
      Line.accept]
    by_cases ends : byte == Bytes.lineFeed
    · by_cases within : (Line.content buffer.line.toList).length ≤ receiver.lineLimit
      · simp only [ends, within, if_true, Verdict.forCaller, Line.raw_push]
      · simp only [ends, within, if_true, if_false, Verdict.forCaller]
        rfl
    · simp only [ends, Bool.false_eq_true, if_false, Verdict.forCaller, ← grown]
      rfl
  atSegmentEnd := by
    intro buffer
    simp only [scanner, Line.scanner, reading_lineLimit, reading_line, Array.toArray_toList]
    by_cases tooLong : Line.isTooLong receiver.lineLimit buffer.line <;>
      simp only [tooLong, Bool.false_eq_true, if_true, if_false, Option.map_some, Option.map_none,
        lineFailure, reading_lineTooLong]
  atCut := by
    intro buffer cut
    rfl
  takesLast := by
    intro appended error
    exact endLine_ne_refused

/-- A receiver at the start of a line, whichever line of the header it is. -/
theorem exists_reads_run (empty : receiver.line = #[]) (alarm : Alarm Receiver HeaderError)
    (now : Nat) (segments : List Bytes) (cut : Cut) :
    ∃ result taken left,
      Line.Reads receiver.lineLimit cut segments.flatten result ∧
      Line.Takes segments taken left ∧
      scanner.run alarm cut.ending now receiver (segments.map .segment) =
        match result with
        | .ok _ =>
            scanner.runFrom alarm cut.ending now (left.map .segment)
              ((receiver.reading taken.dropLast).endLine (Line.content taken.dropLast))
        | .error .tooLong => ⟨now, .failed receiver.lineTooLong, left.map .segment⟩
        | .error (.cut cut) =>
            ⟨now, .failed ((receiver.reading taken).cutError cut), left.map .segment⟩ := by
  have atStart : receiver.reading (Line.Buffer.behind #[]).line.toList = receiver := by
    cases receiver
    subst empty
    rfl
  rcases receiver.calls_line.exists_reads alarm now #[] segments cut with
    ⟨result, taken, left, reads, takes, runs⟩
  refine ⟨result, taken, left, reads, takes, ?_⟩
  rw [atStart] at runs
  rw [runs]
  rcases result with (_ | cut) | count
  · rfl
  · simp only [lineFailure, Line.line_holding]
  · simp only [Line.Appended.raw, Line.line_holding]

end Receiver

namespace Body

/-- The stages that read a line, and what comes behind the line. -/
inductive ReadsLine : (Array UInt8 → Stage) → (Nat → Bytes → Bytes → Sink → Step) → Prop where
  | sizeLine : ReadsLine .sizeLine afterSizeLine
  | chunkEnd : ReadsLine .chunkEnd afterChunkEnd
  | trailer : ReadsLine .trailer afterTrailer

theorem writeLine_ne_refused {line : Bytes} {sink : Sink} {next : Sink → Step} {broken : Broken}
    (goesOn : ∀ sink, next sink ≠ .refused broken) :
    writeLine line sink next ≠ .refused broken := by
  simp only [writeLine]
  split
  · simp
  · exact goesOn _

namespace ReadsLine

variable {stage : Array UInt8 → Stage} {after : Nat → Bytes → Bytes → Sink → Step}

theorem line? (reads : ReadsLine stage after) (line : Array UInt8) (relayed : Nat) :
    (Body.mk (stage line) relayed).line? = some line := by
  cases reads <;> rfl

theorem copy? (reads : ReadsLine stage after) (line : Array UInt8) (relayed : Nat) :
    (Body.mk (stage line) relayed).copy? = none := by
  cases reads <;> rfl

theorem accept (reads : ReadsLine stage after) (line : Array UInt8) (relayed : Nat) (sink : Sink)
    (byte : UInt8) :
    Body.accept ⟨⟨stage line, relayed⟩, sink⟩ byte =
      lineByte line sink byte (fun line => goOn (stage line) relayed) (after relayed) := by
  cases reads <;> rfl

theorem ne_refused (reads : ReadsLine stage after) (relayed : Nat) (content line : Bytes)
    (sink : Sink) (broken : Broken) : after relayed content line sink ≠ .refused broken := by
  have goOn_ne : ∀ stage relayed sink, goOn stage relayed sink ≠ .refused broken := by
    simp [goOn]
  cases reads with
  | sizeLine =>
      simp only [afterSizeLine]
      split
      · simp
      · exact writeLine_ne_refused (goOn_ne _ _)
  | chunkEnd =>
      simp only [afterChunkEnd]
      split
      · exact writeLine_ne_refused (goOn_ne _ _)
      · simp
  | trailer =>
      apply writeLine_ne_refused
      split
      · intro sink
        simp only [finish]
        split <;> simp
      · exact goOn_ne _ _

end ReadsLine

def lineFailure (sink : Sink) (abandoned : Line.Abandoned) : Broken :=
  match abandoned.error with
  | .tooLong => ⟨.lineTooLong, sink⟩
  | .cut .finished => ⟨.unfinishedLine, sink⟩
  | .cut (.broken kind) => ⟨.fault (.ofKind kind), sink⟩

theorem calls_line {stage : Array UInt8 → Stage} {after : Nat → Bytes → Bytes → Sink → Step}
    (reads : ReadsLine stage after) (relayed : Nat) (sink : Sink) :
    scanner.Calls (Line.scanner lineLimit) (fun buffer => ⟨⟨stage buffer.line, relayed⟩, sink⟩)
      (fun appended =>
        after relayed (Line.content appended.raw) appended.buffer.line.toList sink)
      (lineFailure sink) where
  accept := by
    intro buffer byte
    simp only [scanner, reads.accept, lineByte, Line.scanner, Line.accept]
    by_cases ends : byte == Bytes.lineFeed
    · by_cases within : (Line.content buffer.line.toList).length ≤ lineLimit
      · simp only [ends, within, if_true, Verdict.forCaller, Line.raw_push, Line.line_push,
          Array.toList_push]
      · simp only [ends, within, if_true, if_false, Verdict.forCaller, lineFailure]
    · simp only [ends, Bool.false_eq_true, if_false, Verdict.forCaller, goOn, Line.line_push]
  atSegmentEnd := by
    intro buffer
    simp only [scanner, segmentEndError, reads.line?, Line.scanner, Option.any_some]
    by_cases tooLong : Line.isTooLong lineLimit buffer.line <;>
      simp only [tooLong, Bool.false_eq_true, if_true, if_false, Option.map_some, Option.map_none,
        lineFailure]
  atCut := by
    intro buffer cut
    simp only [scanner, cutError, reads.copy?, Line.scanner, lineFailure]
    cases cut <;> rfl
  takesLast := by
    intro appended broken
    exact reads.ne_refused relayed _ _ sink broken

/-- A chunked body at the start of a line: a size, the end of a chunk, or a part of the trailer. -/
theorem exists_reads_run {stage : Array UInt8 → Stage} {after : Nat → Bytes → Bytes → Sink → Step}
    (reads : ReadsLine stage after) (relayed : Nat) (sink : Sink)
    (alarm : Alarm (Flow Body) Broken) (now : Nat) (segments : List Bytes) (cut : Cut) :
    ∃ result taken left,
      Line.Reads lineLimit cut segments.flatten result ∧ Line.Takes segments taken left ∧
      scanner.run alarm cut.ending now ⟨⟨stage #[], relayed⟩, sink⟩ (segments.map .segment) =
        match result with
        | .ok _ =>
            scanner.runFrom alarm cut.ending now (left.map .segment)
              (after relayed (Line.content taken.dropLast) taken sink)
        | .error .tooLong => ⟨now, .failed ⟨.lineTooLong, sink⟩, left.map .segment⟩
        | .error (.cut .finished) => ⟨now, .failed ⟨.unfinishedLine, sink⟩, left.map .segment⟩
        | .error (.cut (.broken kind)) =>
            ⟨now, .failed ⟨.fault (.ofKind kind), sink⟩, left.map .segment⟩ := by
  rcases (calls_line reads relayed sink).exists_reads alarm now #[] segments cut with
    ⟨result, taken, left, decided, takes, runs⟩
  refine ⟨result, taken, left, decided, takes, ?_⟩
  have atStart : (Line.Buffer.behind #[]).line = #[] := rfl
  rw [atStart] at runs
  rw [runs]
  rcases result with (_ | _ | kind) | count
  · rfl
  · rfl
  · rfl
  · simp only [Line.Appended.raw, Line.line_holding]

end Body

end HttpRelay
