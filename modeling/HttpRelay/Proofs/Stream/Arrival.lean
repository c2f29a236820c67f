import HttpRelay.Proofs.Stream.Steadiness

/-!
# Arrival

When the bytes of a source arrive, and in what segments, makes no difference to a scanner
that is steady and does not give up a wait. A run of it over any source, with any ending, comes
to the value that the plain scan of the bytes comes to, and leaves what the scan leaves
(`run_done_iff`). If the bytes are not enough for the value, it comes to the end of the
source in the state of the plain scan (`run_of_scan_more`).

A run that fails took a definite part of the bytes, whatever the scanner
(`failsAfter_of_run_failed`).
-/

namespace HttpRelay

universe u v w

namespace Scanner

variable {State : Type u} {Value : Type v} {Error : Type w}
  {scanner : Scanner State Value Error} {Valid : State → Prop} {alarm : Alarm State Error}
  {ending : Source.Ending} {state next stop : State} {now time : Nat} {value : Value}
  {error : Error} {bytes first second rest consumed : Bytes} {items left : List Source.Item}

/-- Nowhere in some bytes a scanner gives up a wait. -/
def Patient (scanner : Scanner State Value Error) (state : State) (bytes : Bytes) : Prop :=
  ∀ taken stop, taken <+: bytes → scanner.scan state taken = .more stop →
    scanner.atWait stop = none

theorem Patient.of_scan (patient : scanner.Patient state (first ++ second))
    (scanned : scanner.scan state first = .more next) : scanner.Patient next second := by
  intro taken stop isPrefix reached
  apply patient (first ++ taken) stop
  · exact (List.prefix_append_right_inj first).mpr isPrefix
  · rw [scan_append_of_more scanned]
    exact reached

/-- Bytes on which nothing fails rule out an error at the end of a segment before them. -/
theorem Steady.atSegmentEnd_eq_none (steady : scanner.Steady Valid) (valid : Valid state)
    (goesOn : ∀ error left, scanner.feed state bytes ≠ .failed error left) :
    scanner.atSegmentEnd state = none := by
  cases due : scanner.atSegmentEnd state with
  | none => rfl
  | some error =>
      rcases steady.feed_of_due valid due bytes with ⟨left, failed⟩
      exact absurd failed (goesOn error left)

theorem Steady.atSegmentEnd_of_scan_done (steady : scanner.Steady Valid) (valid : Valid state)
    (scanned : scanner.scan state bytes = .done value rest) :
    scanner.atSegmentEnd state = none := by
  apply steady.atSegmentEnd_eq_none valid
  intro error left failed
  rw [feed_eq_done_iff.mpr scanned] at failed
  cases failed

theorem exists_scan_of_append_more (scanned : scanner.scan state (first ++ second) = .more stop) :
    ∃ middle, scanner.scan state first = .more middle ∧
      scanner.scan middle second = .more stop := by
  rw [scan_append] at scanned
  cases reached : scanner.scan state first with
  | more middle =>
      simp only [reached] at scanned
      exact ⟨middle, rfl, scanned⟩
  | done value rest => simp [reached] at scanned
  | failed error rest => simp [reached] at scanned

/-- Before the last of the bytes that a value takes, a scan goes on. -/
theorem exists_scan_of_append_done
    (scanned : scanner.scan state (first ++ second) = .done value rest)
    (shorter : rest.length < second.length) :
    ∃ middle, scanner.scan state first = .more middle ∧
      scanner.scan middle second = .done value rest := by
  rw [scan_append] at scanned
  cases reached : scanner.scan state first with
  | more middle =>
      simp only [reached] at scanned
      exact ⟨middle, rfl, scanned⟩
  | done other left =>
      simp only [reached, Scan.done.injEq] at scanned
      have length := congrArg List.length scanned.2
      rw [List.length_append] at length
      omega
  | failed error left => simp [reached] at scanned

section Run

theorem run_delay (silent : ∀ state now arrival, alarm state now arrival = none)
    (waits : scanner.atWait state = none) (now milliseconds : Nat) (items : List Source.Item) :
    ∃ later, scanner.run alarm ending now state (.delay milliseconds :: items) =
      scanner.run alarm ending later state items := by
  cases milliseconds with
  | zero => exact ⟨now, rfl⟩
  | succ milliseconds =>
      refine ⟨now + (milliseconds + 1), ?_⟩
      simp only [run, waits, silent]

theorem run_segment_of_feed (fed : scanner.feed state bytes = .more next) :
    scanner.run alarm ending now state (.segment bytes :: items) =
      scanner.run alarm ending now next items := by
  simp only [run, fed]

/-- A run comes to the value that the bytes of its source complete. -/
theorem Steady.run_of_scan_done (steady : scanner.Steady Valid) (valid : Valid state)
    (silent : ∀ state now arrival, alarm state now arrival = none)
    (patient : scanner.Patient state (Source.bytesOf items))
    (scanned : scanner.scan state (Source.bytesOf items) = .done value rest) (now : Nat) :
    ∃ time left, scanner.run alarm ending now state items = ⟨time, .done value, left⟩ ∧
      Source.bytesOf left = rest := by
  induction items generalizing state now with
  | nil => cases scanned
  | cons item items ih =>
      cases item with
      | delay milliseconds =>
          have waits := patient [] state List.nil_prefix rfl
          rcases run_delay silent waits now milliseconds items with ⟨later, ran⟩
          rw [ran]
          exact ih valid patient scanned later
      | segment bytes =>
          simp only [Source.bytesOf_segment, scan_append] at scanned
          cases reached : scanner.scan state bytes with
          | more middle =>
              simp only [reached] at scanned
              -- The bytes behind the segment complete the value, so nothing is due at its end.
              have nextValid := steady.valid_scan valid reached
              have nothingDue := steady.atSegmentEnd_of_scan_done nextValid scanned
              rw [run_segment_of_feed (feed_eq_more_iff.mpr ⟨reached, nothingDue⟩)]
              exact ih nextValid (patient.of_scan reached) scanned now
          | done value rest =>
              simp only [reached, Scan.done.injEq] at scanned
              rcases scanned with ⟨rfl, rfl⟩
              refine ⟨now, .segment rest :: items, ?_, rfl⟩
              simp only [run, feed_eq_done_iff.mpr reached]
          | failed error rest => simp [reached] at scanned

/-- A run whose bytes are not enough for a value comes to the end of its source. -/
theorem Steady.run_of_scan_more (steady : scanner.Steady Valid) (valid : Valid state)
    (silent : ∀ state now arrival, alarm state now arrival = none)
    (patient : scanner.Patient state (Source.bytesOf items))
    (scanned : scanner.scan state (Source.bytesOf items) = .more stop)
    (nothingDue : scanner.atSegmentEnd stop = none) (now : Nat) :
    ∃ later, scanner.run alarm ending now state items =
      scanner.run alarm ending later stop [] := by
  induction items generalizing state now with
  | nil =>
      cases scanned
      exact ⟨now, rfl⟩
  | cons item items ih =>
      cases item with
      | delay milliseconds =>
          have waits := patient [] state List.nil_prefix rfl
          rcases run_delay silent waits now milliseconds items with ⟨later, ran⟩
          rw [ran]
          exact ih valid patient scanned later
      | segment segment =>
          rw [Source.bytesOf_segment] at scanned
          rcases exists_scan_of_append_more scanned with ⟨middle, reached, others⟩
          have middleValid := steady.valid_scan valid reached
          have goesOn : scanner.atSegmentEnd middle = none := by
            apply steady.atSegmentEnd_eq_none middleValid
            intro error left failed
            rw [feed_eq_more_iff.mpr ⟨others, nothingDue⟩] at failed
            cases failed
          rw [run_segment_of_feed (feed_eq_more_iff.mpr ⟨reached, goesOn⟩)]
          exact ih middleValid (patient.of_scan reached) others now

/-- A run fails in the same way as the bytes of its source at once. -/
theorem Steady.run_of_feed_failed (steady : scanner.Steady Valid) (valid : Valid state)
    (silent : ∀ state now arrival, alarm state now arrival = none)
    (patient : scanner.Patient state (Source.bytesOf items))
    (nothingDue : scanner.atSegmentEnd state = none)
    (failed : scanner.feed state (Source.bytesOf items) = .failed error rest) (now : Nat) :
    ∃ time left, scanner.run alarm ending now state items = ⟨time, .failed error, left⟩ := by
  induction items generalizing state now with
  | nil =>
      simp only [Source.bytesOf_nil, feed, nothingDue] at failed
      cases failed
  | cons item items ih =>
      cases item with
      | delay milliseconds =>
          have waits := patient [] state List.nil_prefix rfl
          rcases run_delay silent waits now milliseconds items with ⟨later, ran⟩
          rw [ran]
          exact ih valid patient nothingDue failed later
      | segment bytes =>
          simp only [Source.bytesOf_segment] at failed
          cases fed : scanner.feed state bytes with
          | more next =>
              rw [feed_append_of_more fed] at failed
              rcases feed_eq_more_iff.mp fed with ⟨reached, noneDue⟩
              rw [run_segment_of_feed fed]
              have stillValid := steady.valid_scan valid reached
              exact ih stillValid (patient.of_scan reached) noneDue failed now
          | done value left => simp [feed_append_of_done fed] at failed
          | failed early left =>
              rcases steady.feed_append_of_failed valid fed (Source.bytesOf items) with
                ⟨others, alsoFailed⟩
              rw [alsoFailed] at failed
              cases failed
              exact ⟨now, .segment left :: items, by simp only [run, fed]⟩

/-- A run that came to a value is a plain scan that did. -/
theorem scan_of_run_done
    (ran : scanner.run alarm ending now state items = ⟨time, .done value, left⟩) :
    scanner.scan state (Source.bytesOf items) = .done value (Source.bytesOf left) := by
  rcases scanner.exists_stop_run alarm ending now state items with ⟨taken, stop, reached, ended⟩
  simp only [ran] at ended
  rcases ended with ⟨byte, accepted, split⟩
  rw [split, scan_append_of_more reached]
  exact scan_cons_of_done accepted

/-- A run comes to a value, and leaves the given bytes, exactly if the plain scan does. -/
theorem Steady.run_done_iff (steady : scanner.Steady Valid) (valid : Valid state)
    (silent : ∀ state now arrival, alarm state now arrival = none)
    (patient : scanner.scan state (Source.bytesOf items) = .done value rest →
      scanner.Patient state (Source.bytesOf items)) (now : Nat) :
    (∃ time left, scanner.run alarm ending now state items = ⟨time, .done value, left⟩ ∧
        Source.bytesOf left = rest) ↔
      scanner.scan state (Source.bytesOf items) = .done value rest := by
  constructor
  · rintro ⟨time, left, ran, rfl⟩
    exact scan_of_run_done ran
  · intro scanned
    exact steady.run_of_scan_done valid silent (patient scanned) scanned now

/-- Only a stream that stalls is waited for. -/
theorem ending_of_run_waiting
    (ran : scanner.run alarm ending now state items = ⟨time, .waiting stop, left⟩) :
    ending = .stalled := by
  rcases scanner.exists_stop_run alarm ending now state items with ⟨taken, last, reached, ended⟩
  simp only [ran] at ended
  rcases ended with ⟨_, _, stalled, _⟩
  exact stalled

end Run

section Failure

/-- What makes a scanner fail in a state without taking a further byte. -/
inductive HaltsAt (scanner : Scanner State Value Error) (alarm : Alarm State Error)
    (stop : State) : Error → Prop where
  | beforeByte {byte : UInt8} {error : Error}
      (accepted : scanner.accept stop byte = .refused error) : HaltsAt scanner alarm stop error
  | onSegmentEnd {error : Error} (ended : scanner.atSegmentEnd stop = some error) :
      HaltsAt scanner alarm stop error
  | onWait {error : Error} (waited : scanner.atWait stop = some error) :
      HaltsAt scanner alarm stop error
  | onCut (cut : Cut) : HaltsAt scanner alarm stop (scanner.atCut stop cut)
  | onAlarm {now time : Nat} {arrival : Option Nat} {error : Error}
      (rang : alarm stop now arrival = some (time, error)) : HaltsAt scanner alarm stop error

/-- The bytes that a scanner took, the one on which it failed included, until it failed. -/
inductive FailsAfter (scanner : Scanner State Value Error) (alarm : Alarm State Error)
    (state : State) : Bytes → Error → Prop where
  | onByte {taken : Bytes} {byte : UInt8} {stop : State} {error : Error}
      (reached : scanner.scan state taken = .more stop)
      (accepted : scanner.accept stop byte = .failed error) :
      FailsAfter scanner alarm state (taken ++ [byte]) error
  | halted {taken : Bytes} {stop : State} {error : Error}
      (reached : scanner.scan state taken = .more stop)
      (halts : scanner.HaltsAt alarm stop error) : FailsAfter scanner alarm state taken error

theorem FailsAfter.of_scan (scanned : scanner.scan state first = .more next)
    (fails : scanner.FailsAfter alarm next consumed error) :
    scanner.FailsAfter alarm state (first ++ consumed) error := by
  cases fails with
  | onByte reached accepted =>
      rw [← List.append_assoc]
      exact .onByte ((scan_append_of_more scanned).trans reached) accepted
  | halted reached halts => exact .halted ((scan_append_of_more scanned).trans reached) halts

theorem FailsAfter.of_halts (halts : scanner.HaltsAt alarm state error) :
    scanner.FailsAfter alarm state [] error :=
  .halted rfl halts

theorem failsAfter_of_scan_failed (alarm : Alarm State Error)
    (scanned : scanner.scan state bytes = .failed error rest) :
    ∃ consumed, bytes = consumed ++ rest ∧ scanner.FailsAfter alarm state consumed error := by
  rcases exists_stop_of_scan_failed scanned with ⟨taken, byte, stop, reached, failed⟩
  rcases failed with ⟨rfl, accepted⟩ | ⟨after, rfl, rfl, refused⟩
  · refine ⟨taken ++ [byte], ?_, .onByte reached accepted⟩
    rw [List.append_assoc]
    rfl
  · exact ⟨taken, rfl, .halted reached (.beforeByte refused)⟩

/-- A run that failed took some bytes and left the others. -/
theorem failsAfter_of_run_failed
    (ran : scanner.run alarm ending now state items = ⟨time, .failed error, left⟩) :
    ∃ consumed, Source.bytesOf items = consumed ++ Source.bytesOf left ∧
      scanner.FailsAfter alarm state consumed error := by
  induction items generalizing state now with
  | nil =>
      cases ending with
      | finished =>
          cases ran
          exact ⟨[], rfl, .of_halts (.onCut .finished)⟩
      | broken kind =>
          cases ran
          exact ⟨[], rfl, .of_halts (.onCut (.broken kind))⟩
      | stalled =>
          simp only [run] at ran
          split at ran
          · rename_i waited
            cases ran
            exact ⟨[], rfl, .of_halts (.onWait waited)⟩
          · split at ran
            · rename_i rang
              cases ran
              exact ⟨[], rfl, .of_halts (.onAlarm rang)⟩
            · cases ran
  | cons item items ih =>
      cases item with
      | segment bytes =>
          simp only [run, feed_eq_endSegment_scan] at ran
          cases scanned : scanner.scan state bytes with
          | more next =>
              simp only [scanned, endSegment] at ran
              cases ended : scanner.atSegmentEnd next with
              | some last =>
                  simp only [ended] at ran
                  cases ran
                  exact ⟨bytes, rfl, .halted scanned (.onSegmentEnd ended)⟩
              | none =>
                  simp only [ended] at ran
                  -- Only here the run goes on, and what it takes further is added.
                  rcases ih ran with ⟨consumed, split, fails⟩
                  refine ⟨bytes ++ consumed, ?_, .of_scan scanned fails⟩
                  rw [Source.bytesOf_segment, split, List.append_assoc]
          | done value rest =>
              simp only [scanned, endSegment] at ran
              cases ran
          | failed last rest =>
              simp only [scanned, endSegment] at ran
              cases ran
              rcases failsAfter_of_scan_failed alarm scanned with ⟨consumed, rfl, fails⟩
              refine ⟨consumed, ?_, fails⟩
              simp only [Source.bytesOf_segment, List.append_assoc]
      | delay milliseconds =>
          cases milliseconds with
          | zero => exact ih ran
          | succ milliseconds =>
              simp only [run] at ran
              split at ran
              · rename_i waited
                cases ran
                exact ⟨[], rfl, .of_halts (.onWait waited)⟩
              · split at ran
                · rename_i rang
                  cases ran
                  exact ⟨[], rfl, .of_halts (.onAlarm rang)⟩
                · exact ih ran

end Failure

end Scanner

end HttpRelay
