import HttpRelay.Proofs.Relay.BodyTracking
import HttpRelay.Proofs.Stream.Arrival

/-!
# The account of a body

A relay of a body counts what it takes, and it fails for one of two reasons: the bytes do not
belong to a body, or the sink does not take them. Both are made exact here. At every point the
count agrees with the bytes taken, and the sink is the one with which the relay began after a
single write of what came before the line that is being read. A fault says that the sink does
not take the bytes so far, and a line that is not acceptable is taken and not written.

So a relay of a body ends well exactly if the stream begins with a whole body and the sink
takes it (`resume_start_eq_done_iff`).
-/

namespace HttpRelay

namespace Sink

variable {sink middle written : Sink} {first second bytes : Bytes} {fault : Fault}

/-- A sink that takes given bytes whole, and lets them be flushed. -/
structure Takes (sink : Sink) (bytes : Bytes) : Prop where
  whole : (sink.write bytes).2 = none
  flush : sink.flush = none

theorem flush_of_write {fault : Option Fault} (wrote : sink.write bytes = (written, fault)) :
    written.flush = sink.flush := by
  rcases sink with ⟨room, refusal, flushRefusal, record⟩
  cases room <;> cases wrote <;> rfl

@[simp]
theorem write_nil (sink : Sink) : sink.write [] = (sink, none) := by
  rcases sink with ⟨room, refusal, flushRefusal, record⟩
  cases room <;> simp [write]

/-- Bytes that are written one part after another are written as a whole. -/
theorem write_append (wrote : sink.write first = (middle, none)) (second : Bytes) :
    sink.write (first ++ second) = middle.write second := by
  have joined : ∀ (record : Array UInt8) (second : Bytes),
      record ++ (first ++ second) = record ++ first ++ second := by
    intro record second
    apply Array.toList_inj.mp
    simp
  rcases sink with ⟨room, refusal, flushRefusal, record⟩
  cases room with
  | none =>
      cases wrote
      simp only [write, joined]
  | some room =>
      have fits : first.length ≤ room := by
        simp only [write, Prod.mk.injEq, ite_eq_left_iff, reduceCtorEq, imp_false] at wrote
        exact Decidable.of_not_not wrote.2
      simp only [write, fits, if_true, Prod.mk.injEq, and_true] at wrote
      subst wrote
      have taken : (first ++ second).take room = first ++ second.take (room - first.length) := by
        rw [List.take_append, List.take_of_length_le fits]
      have left : room - (first.length + second.length) = room - first.length - second.length := by
        omega
      have both : first.length + second.length ≤ room ↔ second.length ≤ room - first.length := by
        omega
      simp only [write, List.length_append, taken, left, both, joined,
        List.take_of_length_le fits]

theorem not_takes_of_fault (wrote : sink.write first = (middle, none))
    (refused : middle.write second = (written, some fault)) : ¬sink.Takes (first ++ second) := by
  intro takes
  have whole := takes.whole
  rw [write_append wrote, refused] at whole
  cases whole

namespace Takes

theorem rest (takes : sink.Takes (first ++ second)) (wrote : sink.write first = (middle, none)) :
    middle.Takes second := by
  refine ⟨?_, (flush_of_write wrote).trans takes.flush⟩
  rw [← write_append wrote]
  exact takes.whole

theorem front (takes : sink.Takes (first ++ second)) : sink.Takes first := by
  refine ⟨?_, takes.flush⟩
  rcases sink with ⟨room, refusal, flushRefusal, record⟩
  cases room with
  | none => rfl
  | some room =>
      have whole := takes.whole
      simp only [write, ite_eq_left_iff, reduceCtorEq, imp_false, List.length_append] at whole ⊢
      omega

end Takes

/-- A sink without bound whose flushes do not fail takes everything. -/
theorem takes_of_unbounded (unbounded : sink.room = none) (flushes : sink.flushRefusal = none)
    (bytes : Bytes) : sink.Takes bytes := by
  rcases sink with ⟨room, refusal, flushRefusal, record⟩
  subst unbounded flushes
  exact ⟨rfl, rfl⟩

/-- A byte that is refused leaves no trace in the output. -/
theorem output_of_refused {byte : UInt8} (wrote : sink.write [byte] = (written, some fault)) :
    written.output = sink.output := by
  have output := sink.output_write [byte]
  rw [wrote] at output
  rcases sink with ⟨room, refusal, flushRefusal, record⟩
  cases room with
  | none => cases wrote
  | some room =>
      cases room with
      | zero => simpa [fitting] using output
      | succ room => simp [write] at wrote

end Sink

namespace Body

/-- Where a body stands after a number of bytes. -/
def Stands (body : Body) (taken : Nat) : Prop :=
  match body.stage with
  | .fixed copy | .chunk copy =>
      copy.remaining ≤ copy.wanted ∧ body.relayed + copy.got = taken
  | .sizeLine line | .chunkEnd line | .trailer line =>
      Bytes.lineFeed ∉ line.toList ∧ body.relayed + line.size = taken

/-- A line, or the part of one, that is longer than a line of a body may be. -/
def IsOverlong (bytes : Bytes) : Prop :=
  ∃ raw, Bytes.lineFeed ∉ raw ∧ lineLimit < (Line.content raw).length ∧
    (bytes = raw ∨ bytes = raw ++ [Bytes.lineFeed])

/-- The bytes that were taken last and are not written on account of an error. -/
def Rejects : BodyError → Bytes → Prop
  | .short _ _, bytes => bytes = []
  | .lineTooLong, bytes => IsOverlong bytes
  | .unfinishedLine, bytes => Bytes.lineFeed ∉ bytes
  | .chunkSize error, bytes =>
      ∃ content, IsLine content bytes ∧ ChunkSize.ofLine content = .error error
  | .unterminatedChunk, bytes => ∃ content, IsLine content bytes ∧ content ≠ []
  | .fault _, _ => True

/-- An end at which everything was written but the bytes that the error rejects. -/
def Broken.LeavesOut (origin : Sink) (taken : Bytes) (broken : Broken) : Prop :=
  ∃ written rejected, taken = written ++ rejected ∧
    broken.sink.output = origin.output ++ written ∧ Rejects broken.error rejected

/-- What the error of a relay says of the bytes taken. -/
def Broken.Accounts (origin : Sink) (taken : Bytes) (broken : Broken) : Prop :=
  match broken.error with
  | .fault _ => ¬origin.Takes taken
  | .short _ _ | .lineTooLong | .unfinishedLine | .chunkSize _ | .unterminatedChunk =>
      broken.LeavesOut origin taken

/-- A relay that passed a body on whole. -/
structure Relayed.Carries (origin : Sink) (body : Bytes) (relayed : Relayed) : Prop where
  count : relayed.count = body.length
  wrote : origin.write body = (relayed.sink, none)
  flush : origin.flush = none

def Step.Accounts (origin : Sink) (taken : Bytes) : Step → Prop
  | .more next =>
      next.progress.Stands taken.length ∧
        ∃ written, written ++ next.progress.pending = taken ∧
          origin.write written = (next.sink, none)
  | .done relayed => relayed.Carries origin taken
  | .failed broken => broken.Accounts origin taken
  | .refused broken =>
      ¬origin.Takes taken ∧ broken.sink.output = origin.output ++ taken.dropLast

section Accounts

variable {origin sink : Sink} {before taken : Bytes} {relayed : Nat}

theorem accounts_goOn {stage : Stage} (stands : (Body.mk stage relayed).Stands taken.length)
    (wrote : origin.write before = (sink, none))
    (pending : before ++ (Body.mk stage relayed).pending = taken) :
    (goOn stage relayed sink).Accounts origin taken :=
  ⟨stands, before, pending, wrote⟩

theorem not_takes_of_flush {fault : Fault} (wrote : origin.write before = (sink, none))
    (flushed : sink.flush = some fault) : ¬origin.Takes taken := by
  intro takes
  rw [Sink.flush_of_write wrote, takes.flush] at flushed
  cases flushed

theorem accounts_finish {count : Nat} (counted : count = taken.length)
    (wrote : origin.write taken = (sink, none)) : (finish count sink).Accounts origin taken := by
  cases flushed : sink.flush with
  | none =>
      rw [finish_of_flush flushed]
      exact ⟨counted, wrote, (Sink.flush_of_write wrote).symm.trans flushed⟩
  | some fault =>
      rw [finish_of_fault flushed]
      exact not_takes_of_flush wrote flushed

theorem accounts_endCopy {goOn : Sink → Step} (wrote : origin.write before = (sink, none))
    (goesOn : (goOn sink).Accounts origin taken) : (endCopy sink goOn).Accounts origin taken := by
  cases flushed : sink.flush with
  | none =>
      rw [endCopy_of_flush flushed]
      exact goesOn
  | some fault =>
      rw [endCopy_of_fault flushed]
      exact not_takes_of_flush wrote flushed

theorem accounts_writeLine {line : Bytes} {goOn : Sink → Step}
    (wrote : origin.write before = (sink, none))
    (goesOn : ∀ written, origin.write (before ++ line) = (written, none) →
      (goOn written).Accounts origin (before ++ line)) :
    (writeLine line sink goOn).Accounts origin (before ++ line) := by
  rw [writeLine]
  cases wroteLine : sink.write line with
  | mk written fault =>
      cases fault with
      | none =>
          apply goesOn
          rw [Sink.write_append wrote, wroteLine]
      | some fault => exact Sink.not_takes_of_fault wrote wroteLine

theorem accounts_copyByte {copy : Copy} {stage : Copy → Stage} {after : Sink → Step}
    (noLine : ∀ copy, (Body.mk (stage copy) relayed).pending = [])
    (stands : ∀ copy taken, (Body.mk (stage copy) relayed).Stands taken ↔
      copy.remaining ≤ copy.wanted ∧ relayed + copy.got = taken)
    (positive : 0 < copy.remaining) (standing : (Body.mk (stage copy) relayed).Stands before.length)
    (wrote : origin.write before = (sink, none)) (byte : UInt8)
    (behind : ∀ written, relayed + copy.wanted = (before ++ [byte]).length →
      origin.write (before ++ [byte]) = (written, none) →
        (after written).Accounts origin (before ++ [byte])) :
    (copyByte copy sink byte (fun copy => goOn (stage copy) relayed) after).Accounts origin
      (before ++ [byte]) := by
  rcases (stands _ _).mp standing with ⟨within, counted⟩
  -- With `got` as a difference, the count after the byte is linear arithmetic.
  simp only [Copy.got] at counted
  have length : (before ++ [byte]).length = before.length + 1 := List.length_append
  rw [copyByte]
  cases wroteByte : sink.write [byte] with
  | mk written fault =>
      cases fault with
      | some fault =>
          refine ⟨Sink.not_takes_of_fault wrote wroteByte, ?_⟩
          rw [List.dropLast_concat, ← Sink.output_of_written wrote]
          exact Sink.output_of_refused wroteByte
      | none =>
          have wroteBoth : origin.write (before ++ [byte]) = (written, none) := by
            rw [Sink.write_append wrote, wroteByte]
          dsimp only
          split
          · apply accounts_endCopy wroteBoth
            apply behind written _ wroteBoth
            omega
          · apply accounts_goOn _ wroteBoth
            · rw [noLine, List.append_nil]
            · rw [stands, length, Copy.got]
              simp only [Copy.next]
              omega

theorem accounts_lineByte {line : Array UInt8} {stage : Array UInt8 → Stage}
    {after : Bytes → Bytes → Sink → Step}
    (reads : ∀ line, (Body.mk (stage line) relayed).pending = line.toList)
    (stands : ∀ line taken, (Body.mk (stage line) relayed).Stands taken ↔
      Bytes.lineFeed ∉ line.toList ∧ relayed + line.size = taken)
    (standing : (Body.mk (stage line) relayed).Stands (before ++ line.toList).length)
    (wrote : origin.write before = (sink, none)) (byte : UInt8)
    (behind : ∀ content whole, IsLine content whole → relayed = before.length →
      (after content whole sink).Accounts origin (before ++ whole)) :
    (lineByte line sink byte (fun line => goOn (stage line) relayed) after).Accounts origin
      (before ++ (line.toList ++ [byte])) := by
  rcases (stands _ _).mp standing with ⟨notIn, counted⟩
  have size : line.toList.length = line.size := Array.length_toList
  rw [List.length_append, size] at counted
  simp only [lineByte, Line.accept]
  by_cases isEnd : byte = Bytes.lineFeed
  · subst isEnd
    simp only [beq_self_eq_true, if_true]
    by_cases within : (Line.content line.toList).length ≤ lineLimit
    · simp only [within, if_true]
      apply behind
      · exact ⟨line.toList, notIn, rfl, rfl, within⟩
      · omega
    · simp only [within, if_false]
      refine ⟨before, _, rfl, Sink.output_of_written wrote, ?_⟩
      exact ⟨line.toList, notIn, Nat.lt_of_not_le within, Or.inr rfl⟩
  · simp only [beq_iff_eq, isEnd, if_false]
    apply accounts_goOn _ wrote
    · rw [reads, Array.toList_push]
    · rw [stands, Array.toList_push, Array.size_push]
      constructor
      · simp only [List.mem_append, List.mem_singleton, not_or]
        exact ⟨notIn, Ne.symm isEnd⟩
      · simp only [List.length_append, size, List.length_singleton]
        omega

theorem accounts_afterSizeLine {content line : Bytes} (isLine : IsLine content line)
    (counted : relayed = before.length) (wrote : origin.write before = (sink, none)) :
    (afterSizeLine relayed content line sink).Accounts origin (before ++ line) := by
  rw [afterSizeLine]
  cases sizeOf : ChunkSize.ofLine content with
  | error error =>
      exact ⟨before, line, rfl, Sink.output_of_written wrote, content, isLine, sizeOf⟩
  | ok size =>
      apply accounts_writeLine wrote
      intro written wroteLine
      apply accounts_goOn _ wroteLine
      · rw [stageOfSize]
        split <;> exact List.append_nil _
      · rw [stageOfSize, List.length_append, ← counted]
        split
        · exact ⟨List.not_mem_nil, rfl⟩
        · exact ⟨Nat.le_refl _, by simp [Copy.start, Copy.got]⟩

theorem accounts_afterChunkEnd {content line : Bytes} (isLine : IsLine content line)
    (counted : relayed = before.length) (wrote : origin.write before = (sink, none)) :
    (afterChunkEnd relayed content line sink).Accounts origin (before ++ line) := by
  rw [afterChunkEnd]
  cases content with
  | nil =>
      apply accounts_writeLine wrote
      intro written wroteLine
      apply accounts_goOn _ wroteLine
      · exact List.append_nil _
      · rw [List.length_append, ← counted]
        exact ⟨List.not_mem_nil, rfl⟩
  | cons byte content =>
      exact ⟨before, line, rfl, Sink.output_of_written wrote, _, isLine, List.cons_ne_nil _ _⟩

theorem accounts_afterTrailer (content line : Bytes) (counted : relayed = before.length)
    (wrote : origin.write before = (sink, none)) :
    (afterTrailer relayed content line sink).Accounts origin (before ++ line) := by
  rw [afterTrailer]
  apply accounts_writeLine wrote
  intro written wroteLine
  split
  · apply accounts_finish _ wroteLine
    rw [List.length_append, ← counted]
  · apply accounts_goOn _ wroteLine
    · exact List.append_nil _
    · rw [List.length_append, ← counted]
      exact ⟨List.not_mem_nil, rfl⟩

/-- One byte is counted, and is written or joins the line that is being read. -/
theorem accounts_accept {flow : Flow Body} (inProgress : flow.progress.stage.InProgress)
    (stands : flow.progress.Stands (before ++ flow.progress.pending).length)
    (wrote : origin.write before = (flow.sink, none)) (byte : UInt8) :
    (accept flow byte).Accounts origin (before ++ (flow.progress.pending ++ [byte])) := by
  rcases flow with ⟨⟨stage, relayed⟩, sink⟩
  cases stage with
  | fixed copy =>
      have standing : (Body.mk (.fixed copy) relayed).Stands before.length := by
        rw [← List.append_nil before]
        exact stands
      apply accounts_copyByte _ _ inProgress standing wrote
      · intro written counted wroteByte
        exact accounts_finish counted wroteByte
      · intro copy
        rfl
      · intro copy taken
        rfl
  | chunk copy =>
      have standing : (Body.mk (.chunk copy) relayed).Stands before.length := by
        rw [← List.append_nil before]
        exact stands
      apply accounts_copyByte _ _ inProgress standing wrote
      · intro written counted wroteByte
        apply accounts_goOn _ wroteByte
        · exact List.append_nil _
        · rw [← counted]
          exact ⟨List.not_mem_nil, rfl⟩
      · intro copy
        rfl
      · intro copy taken
        rfl
  | sizeLine line =>
      apply accounts_lineByte _ _ stands wrote
      · intro content whole isLine counted
        exact accounts_afterSizeLine isLine counted wrote
      · intro line
        rfl
      · intro line taken
        rfl
  | chunkEnd line =>
      apply accounts_lineByte _ _ stands wrote
      · intro content whole isLine counted
        exact accounts_afterChunkEnd isLine counted wrote
      · intro line
        rfl
      · intro line taken
        rfl
  | trailer line =>
      apply accounts_lineByte _ _ stands wrote
      · intro content whole isLine counted
        exact accounts_afterTrailer content whole counted wrote
      · intro line
        rfl
      · intro line taken
        rfl

theorem accounts_start (framing : Framing) (sink : Sink) :
    (start framing sink).Accounts sink [] := by
  have nothing := sink.write_nil
  cases framing with
  | empty => exact accounts_finish rfl nothing
  | length count =>
      cases count with
      | zero => exact accounts_endCopy nothing (accounts_finish rfl nothing)
      | succ count =>
          apply accounts_goOn _ nothing
          · rfl
          · exact ⟨Nat.le_refl _, by simp [Copy.start, Copy.got]⟩
  | chunked =>
      apply accounts_goOn _ nothing
      · rfl
      · exact ⟨List.not_mem_nil, rfl⟩

end Accounts

/-- What a relay that is under way knows of the bytes it took, the sink and the count
included. -/
structure Accounts (framing : Framing) (origin : Sink) (taken : Bytes) (flow : Flow Body) : Prop
    extends Tracks framing origin taken flow where
  stands : flow.progress.Stands taken.length
  wrote : ∃ written, written ++ flow.progress.pending = taken ∧
    origin.write written = (flow.sink, none)

variable {framing : Framing} {origin sink : Sink} {taken bytes rest stream : Bytes}
  {flow next : Flow Body} {relayed : Relayed}

namespace Accounts

theorem step (accounts : Accounts framing origin taken flow) (byte : UInt8) :
    (accept flow byte).Accounts origin (taken ++ [byte]) := by
  rcases accounts.wrote with ⟨written, rfl, wrote⟩
  rw [List.append_assoc]
  exact accounts_accept accounts.inProgress accounts.stands wrote byte

theorem accept {byte : UInt8} (accounts : Accounts framing origin taken flow)
    (accepted : accept flow byte = .more next) :
    Accounts framing origin (taken ++ [byte]) next := by
  have tracks := accounts.toTracks.accept byte
  have step := accounts.step byte
  rw [accepted] at tracks step
  exact ⟨tracks, step.1, step.2⟩

theorem of_start (started : start framing sink = .more flow) :
    Accounts framing sink [] flow := by
  have tracks := tracks_start framing sink
  have step := accounts_start framing sink
  rw [started] at tracks step
  exact ⟨tracks, step.1, step.2⟩

theorem scan (accounts : Accounts framing origin taken flow)
    (scanned : scanner.scan flow bytes = .more next) :
    Accounts framing origin (taken ++ bytes) next := by
  induction bytes generalizing taken flow with
  | nil =>
      cases scanned
      rw [List.append_nil]
      exact accounts
  | cons byte bytes ih =>
      simp only [Scanner.scan] at scanned
      cases accepted : scanner.accept flow byte with
      | more middle =>
          simp only [accepted] at scanned
          rw [List.append_cons]
          exact ih (accounts.accept accepted) scanned
      | done relayed => simp [accepted] at scanned
      | failed broken => simp [accepted] at scanned
      | refused broken => simp [accepted] at scanned

theorem of_resume (resumed : scanner.resume taken (start framing sink) = .more flow) :
    Accounts framing sink taken flow := by
  cases started : start framing sink with
  | more first =>
      rw [started] at resumed
      exact (of_start started).scan resumed
  | done relayed =>
      rw [started] at resumed
      cases resumed
  | failed broken =>
      rw [started] at resumed
      cases resumed
  | refused broken =>
      rw [started] at resumed
      cases resumed

theorem of_done {byte : UInt8} (accounts : Accounts framing origin taken flow)
    (accepted : Body.accept flow byte = .done relayed) :
    IsWhole framing (taken ++ [byte]) ∧ relayed.Carries origin (taken ++ [byte]) := by
  have tracks := accounts.toTracks.accept byte
  have step := accounts.step byte
  rw [accepted] at tracks step
  exact ⟨tracks.1, step⟩

/-- A relay goes through to the end of a body that its sink takes. -/
theorem exists_scan_done (accounts : Accounts framing origin taken flow)
    (isWhole : IsWhole framing (taken ++ bytes)) (takes : origin.Takes (taken ++ bytes))
    (rest : Bytes) : ∃ relayed, scanner.scan flow (bytes ++ rest) = .done relayed rest := by
  induction bytes generalizing taken flow with
  | nil =>
      rw [List.append_nil] at isWhole
      exact absurd isWhole (accounts.unfinished taken List.prefix_rfl)
  | cons byte bytes ih =>
      have follows := follows_accept accounts.inProgress byte
      have step := accounts.step byte
      have completes := (accounts.completes (byte :: bytes)).mp isWhole
      -- The grammar rules out every failure but a fault, and the sink rules out the fault.
      rw [List.append_cons] at takes
      rw [List.cons_append]
      cases accepted : scanner.accept flow byte with
      | more next =>
          rw [Scanner.scan_cons_of_more accepted]
          rw [List.append_cons] at isWhole
          exact ih (accounts.accept accepted) isWhole takes
      | done relayed =>
          rw [show Body.accept flow byte = .done relayed from accepted] at follows
          rw [(follows bytes).mp completes]
          exact ⟨relayed, Scanner.scan_cons_of_done accepted⟩
      | failed broken =>
          rw [show Body.accept flow byte = .failed broken from accepted] at follows step
          rcases follows with ⟨fault, error⟩ | impossible
          · simp only [Step.Accounts, Broken.Accounts, error] at step
            exact absurd takes.front step
          · exact absurd completes (impossible bytes)
      | refused broken =>
          rw [show Body.accept flow byte = .refused broken from accepted] at step
          exact absurd takes.front step.1

theorem flush_sink (accounts : Accounts framing origin taken flow) :
    flow.sink.flush = origin.flush := by
  rcases accounts.wrote with ⟨written, _, wrote⟩
  exact Sink.flush_of_write wrote

/-- A relay whose sink can be flushed never gives up a wait. -/
theorem patient (accounts : Accounts framing origin taken flow) (flushes : origin.flush = none)
    (bytes : Bytes) : scanner.Patient flow bytes := by
  intro first stop _ reached
  have stopFlushes := (accounts.scan reached).flush_sink.trans flushes
  change waitError stop = none
  rw [waitError, stopFlushes]
  cases stop.progress.copy? <;> rfl

end Accounts

theorem Relayed.Carries.takes (carries : relayed.Carries origin taken) : origin.Takes taken := by
  refine ⟨?_, carries.flush⟩
  rw [carries.wrote]

theorem carries_of_takes (takes : origin.Takes taken) :
    (Relayed.mk taken.length (origin.write taken).1).Carries origin taken :=
  ⟨rfl, Prod.ext rfl takes.whole, takes.flush⟩

theorem Relayed.Carries.unique {other : Relayed} (carries : relayed.Carries origin taken)
    (others : other.Carries origin taken) : relayed = other := by
  have sinks := carries.wrote.symm.trans others.wrote
  rcases relayed with ⟨count, sink⟩
  rcases other with ⟨otherCount, otherSink⟩
  cases sinks
  cases carries.count.trans others.count.symm
  rfl

/-- A relay of a body ends well exactly if the stream begins with a whole body and the sink
takes it. -/
theorem resume_start_eq_done_iff :
    scanner.resume stream (start framing sink) = .done relayed rest ↔
      ∃ body, stream = body ++ rest ∧ IsWhole framing body ∧ relayed.Carries sink body := by
  have sound : ∀ {relayed rest}, scanner.resume stream (start framing sink) = .done relayed rest →
      ∃ body, stream = body ++ rest ∧ IsWhole framing body ∧ relayed.Carries sink body := by
    intro relayed rest resumed
    cases started : start framing sink with
    | more flow =>
        rw [started] at resumed
        rcases Scanner.exists_stop_of_scan_done resumed with
          ⟨taken, byte, stop, streamEq, reached, accepted⟩
        have accounts := (Accounts.of_start started).scan reached
        rcases accounts.of_done accepted with ⟨isWhole, carries⟩
        refine ⟨taken ++ [byte], ?_, isWhole, carries⟩
        rw [streamEq, List.append_cons]
    | done finished =>
        rw [started] at resumed
        cases resumed
        have tracks := tracks_start framing sink
        have step := accounts_start framing sink
        rw [started] at tracks step
        exact ⟨[], rfl, tracks.1, step⟩
    | failed broken =>
        rw [started] at resumed
        cases resumed
    | refused broken =>
        rw [started] at resumed
        cases resumed
  constructor
  · exact sound
  · rintro ⟨body, rfl, isWhole, carries⟩
    -- The relay comes to some end of the body, and there is only one.
    have finished : ∃ relayed,
        scanner.resume (body ++ rest) (start framing sink) = .done relayed rest := by
      cases started : start framing sink with
      | more flow =>
          exact (Accounts.of_start started).exists_scan_done isWhole carries.takes rest
      | done finished =>
          have follows := follows_start framing sink
          rw [started] at follows
          rw [(follows body).mp isWhole]
          exact ⟨finished, rfl⟩
      | failed broken =>
          have follows := follows_start framing sink
          have step := accounts_start framing sink
          rw [started] at follows step
          rcases follows with ⟨fault, error⟩ | impossible
          · simp only [Step.Accounts, Broken.Accounts, error] at step
            exact absurd (Sink.Takes.front carries.takes) step
          · exact absurd isWhole (impossible body)
      | refused broken => exact absurd started start_ne_refused
    rcases finished with ⟨other, resumed⟩
    rcases sound resumed with ⟨otherBody, split, _, otherCarries⟩
    rw [List.append_left_inj] at split
    rw [carries.unique (split ▸ otherCarries)]
    exact resumed

/-- A whole body does not go past its end, since a relay of it stops there. -/
theorem isWithin_of_isWhole {body : Bytes} (isWhole : IsWhole framing body) :
    IsWithin framing body := by
  have takes : ∀ bytes, Sink.unbounded.Takes bytes := Sink.takes_of_unbounded rfl rfl
  rintro first ⟨more, split⟩ firstWhole
  have throughout := resume_start_eq_done_iff.mpr
    ⟨body, (List.append_nil body).symm, isWhole, carries_of_takes (takes body)⟩
  have stopped := resume_start_eq_done_iff.mpr
    ⟨first, split.symm, firstWhole, carries_of_takes (takes first)⟩
  simp only [throughout, Scan.done.injEq] at stopped
  rcases stopped with ⟨_, rfl⟩
  exact (List.append_nil first).symm.trans split

end Body

end HttpRelay
