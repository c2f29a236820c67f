import HttpRelay.Proofs.Message.Lines
import HttpRelay.Proofs.Relay.Steps

/-!
# The grammar of bodies

Which byte strings are whole bodies of a framing. A body in chunks is given by an inductive
grammar that mentions no state and no sink. Beside it stands the residual language of each
stage of a relay: the byte strings that complete the body from there. One byte takes a stage
to the next exactly if it takes the residual language of the one to that of the other
(`follows_accept`), so a relay accepts a body as far as, and no further than, the grammar
does, whatever its sink does in between.
-/

namespace HttpRelay

namespace Body

def IsLine (content line : Bytes) : Prop :=
  Line.IsWhole lineLimit content line

/-- The lines after the last chunk: any number that are not empty, and an empty one. -/
inductive IsTrailer : Bytes → Prop where
  | last {line : Bytes} (isLine : IsLine [] line) : IsTrailer line
  | more {content line rest : Bytes} (isLine : IsLine content line) (nonempty : content ≠ [])
      (others : IsTrailer rest) : IsTrailer (line ++ rest)

/-- A body in chunks: chunks with their size in front and an empty line behind, then a size
of zero and the trailer. -/
inductive IsChunked : Bytes → Prop where
  | last {content line trailer : Bytes} (isLine : IsLine content line)
      (size : ChunkSize.ofLine content = .ok 0) (isTrailer : IsTrailer trailer) :
      IsChunked (line ++ trailer)
  | chunk {content line data terminator rest : Bytes} (isLine : IsLine content line)
      (size : ChunkSize.ofLine content = .ok data.length) (nonempty : data ≠ [])
      (terminated : IsLine [] terminator) (others : IsChunked rest) :
      IsChunked (line ++ (data ++ (terminator ++ rest)))

/-- A whole body of a framing. -/
def IsWhole : Framing → Bytes → Prop
  | .empty, body => body = []
  | .length count, body => body.length = count
  | .chunked, body => IsChunked body

/-- Bytes that complete a line of which some bytes are there, and then go on as told by its
content. -/
def LineThen (pending : Bytes) (next : Bytes → Bytes → Prop) (bytes : Bytes) : Prop :=
  ∃ raw rest, Bytes.lineFeed ∉ raw ∧ bytes = raw ++ Bytes.lineFeed :: rest ∧
    (Line.content (pending ++ raw)).length ≤ lineLimit ∧ next (Line.content (pending ++ raw)) rest

/-- A number of bytes, and then others that go on as told. -/
def DataThen (count : Nat) (next : Bytes → Prop) (bytes : Bytes) : Prop :=
  ∃ data rest, data.length = count ∧ bytes = data ++ rest ∧ next rest

/-- What may follow a line in the trailer. -/
def TrailerAfter (content rest : Bytes) : Prop :=
  if content = [] then rest = [] else IsTrailer rest

def ChunksAfter (content rest : Bytes) : Prop :=
  content = [] ∧ IsChunked rest

def DataAfter (content rest : Bytes) : Prop :=
  ∃ size, ChunkSize.ofLine content = .ok size ∧
    if size = 0 then IsTrailer rest else DataThen size (LineThen [] ChunksAfter) rest

/-- The byte strings that complete a body from a stage on. -/
def Stage.Completes : Stage → Bytes → Prop
  | .fixed copy => DataThen copy.remaining (· = [])
  | .sizeLine line => LineThen line.toList DataAfter
  | .chunk copy => DataThen copy.remaining (LineThen [] ChunksAfter)
  | .chunkEnd line => LineThen line.toList ChunksAfter
  | .trailer line => LineThen line.toList TrailerAfter

section Parts

variable {pending bytes : Bytes} {next : Bytes → Bytes → Prop} {byte : UInt8} {count : Nat}
  {after : Bytes → Prop}

theorem not_lineThen_nil : ¬LineThen pending next [] := by
  rintro ⟨raw, rest, _, bytesEq, _⟩
  cases raw <;> cases bytesEq

theorem lineThen_lineFeed_cons :
    LineThen pending next (Bytes.lineFeed :: bytes) ↔
      (Line.content pending).length ≤ lineLimit ∧ next (Line.content pending) bytes := by
  constructor
  · rintro ⟨raw, rest, notIn, bytesEq, within, goesOn⟩
    cases raw with
    | nil =>
        simp only [List.nil_append, List.cons.injEq] at bytesEq
        simp only [List.append_nil] at within goesOn
        exact ⟨within, bytesEq.2 ▸ goesOn⟩
    | cons first raw =>
        simp only [List.cons_append, List.cons.injEq] at bytesEq
        exact absurd (bytesEq.1 ▸ List.mem_cons_self) notIn
  · rintro ⟨within, goesOn⟩
    refine ⟨[], bytes, List.not_mem_nil, rfl, ?_⟩
    simp only [List.append_nil]
    exact ⟨within, goesOn⟩

theorem lineThen_cons_of_ne (ne : byte ≠ Bytes.lineFeed) :
    LineThen pending next (byte :: bytes) ↔ LineThen (pending ++ [byte]) next bytes := by
  constructor
  · rintro ⟨raw, rest, notIn, bytesEq, goesOn⟩
    cases raw with
    | nil =>
        simp only [List.nil_append, List.cons.injEq] at bytesEq
        exact absurd bytesEq.1 ne
    | cons first raw =>
        simp only [List.cons_append, List.cons.injEq] at bytesEq
        rcases bytesEq with ⟨rfl, rfl⟩
        rw [List.append_cons] at goesOn
        exact ⟨raw, rest, fun isIn => notIn (List.mem_cons_of_mem _ isIn), rfl, goesOn⟩
  · rintro ⟨raw, rest, notIn, rfl, goesOn⟩
    rw [← List.append_cons] at goesOn
    refine ⟨byte :: raw, rest, ?_, rfl, goesOn⟩
    simp only [List.mem_cons, not_or]
    exact ⟨ne.symm, notIn⟩

theorem dataThen_zero : DataThen 0 after bytes ↔ after bytes := by
  constructor
  · rintro ⟨data, rest, length, rfl, goesOn⟩
    simp only [List.length_eq_zero_iff] at length
    simp only [length, List.nil_append]
    exact goesOn
  · intro goesOn
    exact ⟨[], bytes, rfl, rfl, goesOn⟩

theorem not_dataThen_succ_nil : ¬DataThen (count + 1) after [] := by
  rintro ⟨data, rest, length, bytesEq, _⟩
  simp only [eq_comm, List.append_eq_nil_iff] at bytesEq
  simp only [bytesEq.1] at length
  cases length

theorem dataThen_succ_cons :
    DataThen (count + 1) after (byte :: bytes) ↔ DataThen count after bytes := by
  constructor
  · rintro ⟨data, rest, length, bytesEq, goesOn⟩
    cases data with
    | nil => cases length
    | cons first data =>
        simp only [List.cons_append, List.cons.injEq] at bytesEq
        simp only [List.length_cons, Nat.add_right_cancel_iff] at length
        exact ⟨data, rest, length, bytesEq.2, goesOn⟩
  · rintro ⟨data, rest, rfl, rfl, goesOn⟩
    exact ⟨byte :: data, rest, rfl, rfl, goesOn⟩

theorem lineThen_nil_iff :
    LineThen [] next bytes ↔
      ∃ content line rest, IsLine content line ∧ bytes = line ++ rest ∧ next content rest := by
  constructor
  · rintro ⟨raw, rest, notIn, rfl, within, goesOn⟩
    refine ⟨_, raw ++ [Bytes.lineFeed], rest, ⟨raw, notIn, rfl, rfl, within⟩, ?_, goesOn⟩
    simp only [List.append_assoc, List.singleton_append]
  · rintro ⟨_, _, rest, ⟨raw, notIn, rfl, rfl, within⟩, rfl, goesOn⟩
    refine ⟨raw, rest, notIn, ?_, within, goesOn⟩
    simp only [List.append_assoc, List.singleton_append]

end Parts

theorem isTrailer_iff {bytes : Bytes} : IsTrailer bytes ↔ LineThen [] TrailerAfter bytes := by
  simp only [lineThen_nil_iff]
  constructor
  · intro isTrailer
    cases isTrailer with
    | last isLine => exact ⟨[], bytes, [], isLine, (List.append_nil bytes).symm, rfl⟩
    | more isLine nonempty others =>
        refine ⟨_, _, _, isLine, rfl, ?_⟩
        simp only [TrailerAfter, if_neg nonempty]
        exact others
  · rintro ⟨content, line, rest, isLine, rfl, after⟩
    simp only [TrailerAfter] at after
    split at after
    · subst content after
      simp only [List.append_nil]
      exact .last isLine
    · exact .more isLine ‹_› after

theorem isChunked_iff {bytes : Bytes} : IsChunked bytes ↔ LineThen [] DataAfter bytes := by
  simp only [lineThen_nil_iff]
  constructor
  · intro isChunked
    cases isChunked with
    | last isLine size isTrailer => exact ⟨_, _, _, isLine, rfl, 0, size, isTrailer⟩
    | chunk isLine size nonempty terminated others =>
        refine ⟨_, _, _, isLine, rfl, _, size, ?_⟩
        simp only [if_neg (fun length => nonempty (List.length_eq_zero_iff.mp length))]
        refine ⟨_, _, rfl, rfl, ?_⟩
        exact lineThen_nil_iff.mpr ⟨_, _, _, terminated, rfl, rfl, others⟩
  · rintro ⟨content, line, rest, isLine, rfl, size, sizeEq, after⟩
    split at after
    · subst size
      exact .last isLine sizeEq after
    · rename_i nonzero
      rcases after with ⟨data, rest, rfl, rfl, ended⟩
      rcases lineThen_nil_iff.mp ended with ⟨_, terminator, rest, terminated, rfl, rfl, others⟩
      refine .chunk isLine sizeEq (fun empty => nonzero ?_) terminated others
      simp only [empty, List.length_nil]

def Stage.InProgress : Stage → Prop
  | .fixed copy | .chunk copy => 0 < copy.remaining
  | .sizeLine _ | .chunkEnd _ | .trailer _ => True

theorem not_completes_nil {stage : Stage} (inProgress : stage.InProgress) :
    ¬stage.Completes [] := by
  have not_dataThen_nil : ∀ {count : Nat} {after : Bytes → Prop}, 0 < count →
      ¬DataThen count after [] := by
    intro count after positive
    cases count with
    | zero => exact absurd positive (Nat.lt_irrefl 0)
    | succ count => exact not_dataThen_succ_nil
  cases stage with
  | fixed copy => exact not_dataThen_nil inProgress
  | chunk copy => exact not_dataThen_nil inProgress
  | sizeLine line => exact not_lineThen_nil
  | chunkEnd line => exact not_lineThen_nil
  | trailer line => exact not_lineThen_nil

/-- A step takes a relay to a place from which a language completes the body. A step that
fails on account of what it read leaves no way to complete it. -/
def Step.Follows (language : Bytes → Prop) : Step → Prop
  | .more next =>
      next.progress.stage.InProgress ∧
        ∀ rest, language rest ↔ next.progress.stage.Completes rest
  | .done _ => ∀ rest, language rest ↔ rest = []
  | .failed broken => (∃ fault, broken.error = .fault fault) ∨ ∀ rest, ¬language rest
  | .refused broken => ∃ fault, broken.error = .fault fault

section Follows

variable {language : Bytes → Prop} {sink : Sink}

theorem follows_goOn {stage : Stage} {relayed : Nat} (inProgress : stage.InProgress)
    (completes : ∀ rest, language rest ↔ stage.Completes rest) :
    (goOn stage relayed sink).Follows language :=
  ⟨inProgress, completes⟩

theorem follows_finish {count : Nat} (ended : ∀ rest, language rest ↔ rest = []) :
    (finish count sink).Follows language := by
  cases flushed : sink.flush with
  | none =>
      simp only [finish_of_flush flushed]
      exact ended
  | some fault =>
      simp only [finish_of_fault flushed]
      exact Or.inl ⟨fault, rfl⟩

theorem follows_endCopy {goOn : Sink → Step} (goesOn : (goOn sink).Follows language) :
    (endCopy sink goOn).Follows language := by
  cases flushed : sink.flush with
  | none =>
      simp only [endCopy_of_flush flushed]
      exact goesOn
  | some fault =>
      simp only [endCopy_of_fault flushed]
      exact Or.inl ⟨fault, rfl⟩

theorem follows_writeLine {line : Bytes} {goOn : Sink → Step}
    (goesOn : ∀ sink, (goOn sink).Follows language) :
    (writeLine line sink goOn).Follows language := by
  simp only [writeLine]
  split
  · exact Or.inl ⟨_, rfl⟩
  · exact goesOn _

theorem follows_copyByte {copy : Copy} {byte : UInt8} {stage : Copy → Stage} {relayed : Nat}
    {after : Sink → Step} {rest : Bytes → Prop}
    (inProgress : ∀ copy : Copy, 0 < copy.remaining → (stage copy).InProgress)
    (completes : ∀ copy bytes, (stage copy).Completes bytes ↔ DataThen copy.remaining rest bytes)
    (positive : 0 < copy.remaining) (behind : ∀ sink, (after sink).Follows rest) :
    (copyByte copy sink byte (fun copy => goOn (stage copy) relayed) after).Follows
      fun bytes => (stage copy).Completes (byte :: bytes) := by
  obtain ⟨others, remaining⟩ : ∃ others, copy.remaining = others + 1 :=
    ⟨copy.remaining - 1, by omega⟩
  have shifted : ∀ bytes, (stage copy).Completes (byte :: bytes) ↔ DataThen others rest bytes := by
    intro bytes
    simp only [completes, remaining, dataThen_succ_cons]
  simp only [shifted]
  simp only [copyByte]
  split
  · exact ⟨_, rfl⟩
  · split
    · have last : others = 0 := by omega
      simp only [last, dataThen_zero]
      exact follows_endCopy (behind _)
    · have next : copy.next.remaining = others := by
        simp only [Copy.next, remaining, Nat.add_sub_cancel]
      apply follows_goOn (inProgress _ (by omega))
      intro bytes
      simp only [completes, next]

theorem follows_lineByte {line : Array UInt8} {byte : UInt8} {stage : Array UInt8 → Stage}
    {relayed : Nat} {after : Bytes → Bytes → Sink → Step} {next : Bytes → Bytes → Prop}
    (inProgress : ∀ line, (stage line).InProgress)
    (completes : ∀ line bytes, (stage line).Completes bytes ↔ LineThen line.toList next bytes)
    (behind : ∀ content line sink, (after content line sink).Follows (next content)) :
    (lineByte line sink byte (fun line => goOn (stage line) relayed) after).Follows
      fun bytes => (stage line).Completes (byte :: bytes) := by
  simp only [lineByte, Line.accept]
  simp only [completes, beq_iff_eq]
  by_cases isEnd : byte = Bytes.lineFeed
  · subst isEnd
    simp only [if_true, lineThen_lineFeed_cons]
    by_cases within : (Line.content line.toList).length ≤ lineLimit
    · simp only [within, if_true, true_and]
      exact behind _ _ _
    · simp only [within, if_false, false_and]
      apply Or.inr
      intro _
      exact not_false
  · simp only [isEnd, if_false, lineThen_cons_of_ne isEnd]
    apply follows_goOn (inProgress _)
    intro bytes
    simp only [completes, Array.toList_push]

theorem follows_afterSizeLine {relayed : Nat} (content line : Bytes) (sink : Sink) :
    (afterSizeLine relayed content line sink).Follows (DataAfter content) := by
  simp only [afterSizeLine]
  cases sizeOf : ChunkSize.ofLine content with
  | error error =>
      apply Or.inr
      rintro rest ⟨size, sizeEq, _⟩
      simp only [sizeOf] at sizeEq
      cases sizeEq
  | ok size =>
      have dataAfter : ∀ rest, DataAfter content rest ↔
          if size = 0 then IsTrailer rest else DataThen size (LineThen [] ChunksAfter) rest := by
        intro rest
        simp [DataAfter, sizeOf]
      refine follows_writeLine fun sink => ?_
      simp only [stageOfSize]
      by_cases zero : size = 0
      · simp only [zero, if_true] at dataAfter ⊢
        exact follows_goOn trivial fun rest => (dataAfter rest).trans isTrailer_iff
      · simp only [zero, if_false] at dataAfter ⊢
        exact follows_goOn (Nat.pos_of_ne_zero zero) dataAfter

theorem follows_afterChunkEnd {relayed : Nat} (content line : Bytes) (sink : Sink) :
    (afterChunkEnd relayed content line sink).Follows (ChunksAfter content) := by
  simp only [afterChunkEnd]
  cases content with
  | nil =>
      refine follows_writeLine fun sink => follows_goOn trivial fun rest => ?_
      exact (and_iff_right rfl).trans isChunked_iff
  | cons byte content =>
      apply Or.inr
      rintro rest ⟨empty, _⟩
      cases empty

theorem follows_afterTrailer {relayed : Nat} (content line : Bytes) (sink : Sink) :
    (afterTrailer relayed content line sink).Follows (TrailerAfter content) := by
  simp only [afterTrailer]
  cases content with
  | nil =>
      apply follows_writeLine
      intro sink
      apply follows_finish
      intro rest
      exact Iff.rfl
  | cons byte content =>
      apply follows_writeLine
      intro sink
      exact follows_goOn trivial fun rest => isTrailer_iff

/-- One byte takes a body to where the grammar has it. -/
theorem follows_accept {flow : Flow Body} (inProgress : flow.progress.stage.InProgress)
    (byte : UInt8) :
    (accept flow byte).Follows fun rest => flow.progress.stage.Completes (byte :: rest) := by
  rcases flow with ⟨⟨stage, relayed⟩, sink⟩
  cases stage with
  | fixed copy =>
      apply follows_copyByte
      · intro copy positive
        exact positive
      · intro copy bytes
        rfl
      · exact inProgress
      · intro sink
        apply follows_finish
        intro rest
        rfl
  | chunk copy =>
      apply follows_copyByte
      · intro copy positive
        exact positive
      · intro copy bytes
        rfl
      · exact inProgress
      · intro sink
        apply follows_goOn
        · trivial
        · intro rest
          rfl
  | sizeLine line =>
      apply follows_lineByte
      · intro line
        trivial
      · intro line bytes
        rfl
      · exact follows_afterSizeLine
  | chunkEnd line =>
      apply follows_lineByte
      · intro line
        trivial
      · intro line bytes
        rfl
      · exact follows_afterChunkEnd
  | trailer line =>
      apply follows_lineByte
      · intro line
        trivial
      · intro line bytes
        rfl
      · exact follows_afterTrailer

theorem follows_start (framing : Framing) (sink : Sink) :
    (start framing sink).Follows (IsWhole framing) := by
  cases framing with
  | empty =>
      apply follows_finish
      intro rest
      exact Iff.rfl
  | length count =>
      cases count with
      | zero => exact follows_endCopy (follows_finish fun rest => List.length_eq_zero_iff)
      | succ count =>
          refine follows_goOn (Nat.succ_pos count) fun rest => ?_
          constructor
          · intro length
            exact ⟨rest, [], length, (List.append_nil rest).symm, rfl⟩
          · rintro ⟨data, _, length, rfl, rfl⟩
            simp only [List.append_nil]
            exact length
  | chunked => exact follows_goOn trivial fun rest => isChunked_iff

end Follows

end Body

end HttpRelay
