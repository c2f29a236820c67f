import HttpRelay.Proofs.Relay.BodyAccount
import HttpRelay.Proofs.Relay.LimitedSink

/-!
# Data in a body

Where in a body there is data: anywhere in a body of known length, and between the size line and
the line behind a chunk. The place is told by the grammar of what comes before it
(`Body.IsBeforeData`). A relay that has taken just these bytes is making a copy
(`Body.isSome_copy?_of_isBeforeData`), since a line ends where the grammar has it end, and a copy
after as many bytes as its size line says.
-/

namespace HttpRelay

namespace Body

/-- Whole chunks one after another. -/
inductive IsChunks : Bytes → Prop where
  | none : IsChunks []
  | more {content line data terminator rest : Bytes} (isLine : IsLine content line)
      (size : ChunkSize.ofLine content = .ok data.length) (nonempty : data ≠ [])
      (terminated : IsLine [] terminator) (others : IsChunks rest) :
      IsChunks (line ++ (data ++ (terminator ++ rest)))

/-- The part of a body that comes before a byte of data. -/
def IsBeforeData : Framing → Bytes → Prop
  | .empty, _ => False
  | .length count, bytes => bytes.length < count
  | .chunked, bytes =>
      ∃ chunks content line part size, bytes = chunks ++ (line ++ part) ∧ IsChunks chunks ∧
        IsLine content line ∧ ChunkSize.ofLine content = .ok size ∧ part.length < size

variable {relayed : Nat} {sink : Sink} {flow next : Flow Body} {copy : Copy} {byte : UInt8}
  {bytes content line rest : Bytes} {framing : Framing}

/-- A relay that is under way after some bytes went on with the first of them. -/
theorem scan_cons_eq_more_iff :
    scanner.scan flow (byte :: rest) = .more next ↔
      scanner.resume rest (accept flow byte) = .more next := by
  simp only [Scanner.scan, show scanner.accept flow byte = accept flow byte from rfl]
  cases accept flow byte <;> simp [Scanner.resume]

theorem resume_eq_more_iff {step : Step} :
    scanner.resume rest step = .more flow ↔
      ∃ next, step = .more next ∧ scanner.scan next rest = .more flow := by
  cases step <;> simp [Scanner.resume]

section Lines

variable {stage : Array UInt8 → Stage} {after : Bytes → Bytes → Sink → Step}

/-- A relay that goes on from the beginning of a line goes on from behind it. -/
theorem resume_of_scan_line
    (steps : ∀ line byte, accept ⟨⟨stage line, relayed⟩, sink⟩ byte =
      lineByte line sink byte (fun line => goOn (stage line) relayed) after)
    (isLine : IsLine content line)
    (scanned : scanner.scan ⟨⟨stage #[], relayed⟩, sink⟩ (line ++ rest) = .more flow) :
    scanner.resume rest (after content line sink) = .more flow := by
  -- The induction is on what of the line is to come; what is there is arbitrary.
  have fromWithin : ∀ (raw : Bytes) (pending : Array UInt8), Bytes.lineFeed ∉ raw →
      (Line.content (pending.toList ++ raw)).length ≤ lineLimit →
      scanner.scan ⟨⟨stage pending, relayed⟩, sink⟩ (raw ++ Bytes.lineFeed :: rest) = .more flow →
      scanner.resume rest (after (Line.content (pending.toList ++ raw))
        (pending.toList ++ raw ++ [Bytes.lineFeed]) sink) = .more flow := by
    intro raw
    induction raw with
    | nil =>
        intro pending _ within scanned
        rw [List.append_nil] at within ⊢
        rw [List.nil_append, scan_cons_eq_more_iff, steps] at scanned
        simpa only [lineByte, Line.accept, beq_self_eq_true, if_true, within] using scanned
    | cons byte raw ih =>
        intro pending notIn within scanned
        have ne : byte ≠ Bytes.lineFeed := by
          rintro rfl
          exact notIn List.mem_cons_self
        rw [List.cons_append, scan_cons_eq_more_iff, steps] at scanned
        simp only [lineByte, Line.accept, beq_iff_eq, ne, if_false] at scanned
        rw [List.append_cons, ← Array.toList_push] at within ⊢
        exact ih (pending.push byte) (fun isIn => notIn (List.mem_cons_of_mem byte isIn)) within
          scanned
  rcases isLine with ⟨raw, notIn, rfl, rfl, within⟩
  rw [List.append_assoc] at scanned
  exact fromWithin raw #[] notIn within scanned

end Lines

theorem resume_writeLine {goOn : Sink → Step}
    (resumed : scanner.resume rest (writeLine line sink goOn) = .more flow) :
    ∃ written, scanner.resume rest (goOn written) = .more flow := by
  rw [writeLine] at resumed
  split at resumed
  · cases resumed
  · exact ⟨_, resumed⟩

theorem resume_afterSizeLine {size : Nat} (sizeOf : ChunkSize.ofLine content = .ok size)
    (resumed : scanner.resume rest (afterSizeLine relayed content line sink) = .more flow) :
    ∃ written, scanner.scan ⟨⟨stageOfSize size, relayed + line.length⟩, written⟩ rest =
      .more flow := by
  rw [afterSizeLine, sizeOf] at resumed
  exact resume_writeLine resumed

/-- A copy that goes on has written the byte, and is behind its last byte or in front of another. -/
theorem copyByte_eq_more {stage : Copy → Stage} {after : Sink → Step}
    (copied : copyByte copy sink byte (fun copy => goOn (stage copy) relayed) after = .more next) :
    ∃ written, written.output = sink.output ++ [byte] ∧
      ((copy.remaining ≤ 1 ∧ after written = .more next) ∨
        (1 < copy.remaining ∧ next = ⟨⟨stage copy.next, relayed⟩, written⟩)) := by
  rw [copyByte] at copied
  split at copied
  · cases copied
  · rename_i written wrote
    refine ⟨written, Sink.output_of_written wrote, ?_⟩
    split at copied
    · rename_i last
      rw [endCopy] at copied
      split at copied
      · cases copied
      · exact Or.inl ⟨last, copied⟩
    · rename_i others
      cases copied
      exact Or.inr ⟨Nat.lt_of_not_le others, rfl⟩

theorem finish_ne_more {count : Nat} : finish count sink ≠ .more flow := by
  intro finished
  cases flushes : sink.flush <;> rw [finish, flushes] at finished <;> cases finished

/-- A copy of a body of known length goes on as one. -/
theorem fixed_of_scan
    (scanned : scanner.scan ⟨⟨.fixed copy, relayed⟩, sink⟩ bytes = .more flow) :
    flow.progress.copy?.isSome := by
  induction bytes generalizing copy sink with
  | nil =>
      cases scanned
      rfl
  | cons byte bytes ih =>
      rw [scan_cons_eq_more_iff, resume_eq_more_iff] at scanned
      rcases scanned with ⟨next, accepted, others⟩
      rcases copyByte_eq_more accepted with ⟨written, _, ⟨_, finished⟩ | ⟨_, rfl⟩⟩
      · exact absurd finished finish_ne_more
      · exact ih others

/-- A copy of a chunk goes on as one up to the last byte. -/
theorem chunk_of_scan (inside : bytes.length < copy.remaining)
    (scanned : scanner.scan ⟨⟨.chunk copy, relayed⟩, sink⟩ bytes = .more flow) :
    flow.progress.copy?.isSome := by
  induction bytes generalizing copy sink with
  | nil =>
      cases scanned
      rfl
  | cons byte bytes ih =>
      rw [List.length_cons] at inside
      rw [scan_cons_eq_more_iff, resume_eq_more_iff] at scanned
      rcases scanned with ⟨next, accepted, others⟩
      rcases copyByte_eq_more accepted with ⟨written, _, ⟨last, _⟩ | ⟨_, rfl⟩⟩
      · omega
      · exact ih (Nat.lt_sub_of_add_lt inside) others

/-- Behind the data of a chunk, a relay reads the line that ends it. -/
theorem scan_chunkEnd_of_scan_chunk {data : Bytes} (nonempty : data ≠ [])
    (length : data.length = copy.remaining)
    (scanned : scanner.scan ⟨⟨.chunk copy, relayed⟩, sink⟩ (data ++ rest) = .more flow) :
    ∃ count written, scanner.scan ⟨⟨.chunkEnd #[], count⟩, written⟩ rest = .more flow := by
  induction data generalizing copy sink with
  | nil => exact absurd rfl nonempty
  | cons byte data ih =>
      rw [List.length_cons] at length
      rw [List.cons_append, scan_cons_eq_more_iff, resume_eq_more_iff] at scanned
      rcases scanned with ⟨next, accepted, others⟩
      rcases copyByte_eq_more accepted with ⟨written, _, ⟨last, ended⟩ | ⟨notLast, rfl⟩⟩
      · cases List.length_eq_zero_iff.mp (by omega : data.length = 0)
        cases ended
        exact ⟨_, written, others⟩
      · refine ih ?_ (Nat.eq_sub_of_add_eq length) others
        rintro rfl
        exact absurd length (Nat.ne_of_lt notLast)

/-- A relay in front of some chunks is in front of a size line again behind them. -/
theorem scan_sizeLine_of_isChunks {chunks : Bytes} (isChunks : IsChunks chunks)
    (scanned : scanner.scan ⟨⟨.sizeLine #[], relayed⟩, sink⟩ (chunks ++ rest) = .more flow) :
    ∃ count written, scanner.scan ⟨⟨.sizeLine #[], count⟩, written⟩ rest = .more flow := by
  induction isChunks generalizing relayed sink with
  | none => exact ⟨relayed, sink, scanned⟩
  | @more content line data terminator others isLine size nonempty terminated isChunks ih =>
      simp only [List.append_assoc] at scanned
      have behindLine := resume_of_scan_line (fun _ _ => rfl) isLine scanned
      rcases resume_afterSizeLine size behindLine with ⟨written, inData⟩
      rw [stageOfSize, if_neg fun zero => nonempty (List.length_eq_zero_iff.mp zero)] at inData
      rcases scan_chunkEnd_of_scan_chunk nonempty rfl inData with ⟨count, copied, atEnd⟩
      have behindEnd := resume_of_scan_line (fun _ _ => rfl) terminated atEnd
      rcases resume_writeLine behindEnd with ⟨ended, behind⟩
      exact ih behind

/-- A relay that has taken the bytes before a byte of data makes a copy. -/
theorem isSome_copy?_of_isBeforeData (isBefore : IsBeforeData framing bytes)
    (scanned : scanner.resume bytes (start framing sink) = .more flow) :
    flow.progress.copy?.isSome := by
  cases framing with
  | empty => cases isBefore
  | length count =>
      cases count with
      | zero => cases isBefore
      | succ count => exact fixed_of_scan scanned
  | chunked =>
      rcases isBefore with
        ⟨chunks, content, line, part, size, rfl, isChunks, isLine, sizeOf, inside⟩
      rcases scan_sizeLine_of_isChunks isChunks scanned with ⟨count, written, behind⟩
      have behindLine := resume_of_scan_line (fun _ _ => rfl) isLine behind
      rcases resume_afterSizeLine sizeOf behindLine with ⟨begun, inData⟩
      rw [stageOfSize, if_neg (Nat.ne_of_gt (Nat.zero_lt_of_lt inside))] at inData
      exact chunk_of_scan inside inData

section Cut

variable {begun : Sink} {taken : Bytes} {total : Nat}

theorem grows_of_scan (scanned : scanner.scan flow bytes = .more next) :
    flow.sink.Grows next.sink := by
  induction bytes generalizing flow with
  | nil =>
      cases scanned
      exact .refl _
  | cons byte bytes ih =>
      rw [scan_cons_eq_more_iff, resume_eq_more_iff] at scanned
      rcases scanned with ⟨middle, accepted, others⟩
      have writes := writes_accept (Sink.Grows.refl flow.sink) byte
      rw [accepted] at writes
      exact writes.1.trans (ih others)

/-- A copy writes every byte that it takes. -/
theorem output_of_copy (copies : flow.progress.copy?.isSome)
    (accepted : accept flow byte = .more next) :
    next.sink.output = flow.sink.output ++ [byte] := by
  rcases flow with ⟨⟨stage, relayed⟩, sink⟩
  cases stage with
  | fixed copy =>
      rcases copyByte_eq_more accepted with ⟨written, output, ⟨_, finished⟩ | ⟨_, rfl⟩⟩
      · exact absurd finished finish_ne_more
      · exact output
  | chunk copy =>
      rcases copyByte_eq_more accepted with ⟨written, output, ⟨_, ended⟩ | ⟨_, rfl⟩⟩
      · cases ended
        exact output
      · exact output
  | sizeLine line | chunkEnd line | trailer line => cases copies

theorem pending_of_copy {body : Body} (copies : body.copy?.isSome) : body.pending = [] := by
  rcases body with ⟨stage, relayed⟩
  cases stage with
  | fixed copy | chunk copy => rfl
  | sizeLine line | chunkEnd line | trailer line => cases copies

theorem resume_append {step : Step} (resumed : scanner.resume (bytes ++ rest) step = .more flow) :
    ∃ middle, scanner.resume bytes step = .more middle ∧ scanner.scan middle rest = .more flow := by
  rcases resume_eq_more_iff.mp resumed with ⟨first, rfl, scanned⟩
  exact Scanner.exists_scan_of_append_more scanned

theorem Step.Tracks.prefix_output {step : Step} (tracks : step.Tracks framing begun taken) :
    step.output <+: begun.output ++ taken := by
  cases step with
  | more next => exact Body.Tracks.output_prefix tracks
  | done relayed =>
      rw [← tracks.2.2.2]
      exact List.prefix_rfl
  | failed broken => exact tracks.2.2
  | refused broken => exact tracks.2.2

/-- A relay whose output is cut off in front of a byte of data is in front of that byte, and makes
a copy. -/
theorem copies_of_isBeforeData
    (resumed : scanner.resume taken (start framing begun) = .more flow)
    (within : flow.sink.output.length ≤ total) (past : total < (accept flow byte).output.length)
    (output : (accept flow byte).output.take total = begun.output ++ bytes)
    (isBefore : IsBeforeData framing bytes) :
    taken = bytes ∧ flow.progress.copy?.isSome := by
  have tracks := (Accounts.of_resume resumed).toTracks
  have cut : (begun.output ++ bytes).length = total := by
    rw [← output, List.length_take]
    omega
  have isPrefix : bytes <+: taken ++ [byte] := by
    rw [← List.prefix_append_right_inj begun.output, ← output]
    exact (List.take_prefix _ _).trans (tracks.accept byte).prefix_output
  have length := (tracks.accept byte).prefix_output.length_le
  simp only [List.length_append, List.length_singleton] at cut length
  have inTaken : bytes <+: taken := by
    rcases List.prefix_concat_iff.mp isPrefix with rfl | inTaken
    · simp only [List.length_append, List.length_singleton] at cut
      omega
    · exact inTaken
  rcases inTaken with ⟨more, rfl⟩
  rcases resume_append resumed with ⟨middle, reached, others⟩
  have copies := isSome_copy?_of_isBeforeData isBefore reached
  cases more with
  | nil =>
      cases others
      exact ⟨List.append_nil bytes, copies⟩
  | cons next more =>
      -- The byte behind would be written, and there is no room for it.
      rw [scan_cons_eq_more_iff, resume_eq_more_iff] at others
      rcases others with ⟨further, accepted, scanned⟩
      have written := (Accounts.of_resume reached).toTracks.written
      have grown := (grows_of_scan scanned).output.length_le
      rw [pending_of_copy copies, List.append_nil] at written
      rw [output_of_copy copies accepted, written] at grown
      simp only [List.length_append, List.length_singleton] at grown
      omega

end Cut

end Body

end HttpRelay
