import HttpRelay.Proofs.Stream.Scanning

/-!
# Steadiness

The end of a segment is the one place at which a scanner can tell how its bytes were
divided. A scanner is steady if it gives up there only where every continuation fails with
the same error, so that giving up early anticipates a verdict and never changes it. A run of
a steady scanner depends on the bytes of its segments alone (`run_segments`): the end of a
segment can be read as if it were not there.
-/

namespace HttpRelay

universe u v w

namespace Scanner

variable {State : Type u} {Value : Type v} {Error : Type w}

/-- From the states of a class, which bytes do not leave, an error at the end of a segment
stays due until it is reported. -/
structure Steady (scanner : Scanner State Value Error) (Valid : State → Prop) : Prop where
  valid_accept : ∀ {state next : State} {byte : UInt8}, Valid state →
    scanner.accept state byte = .more next → Valid next
  accept_of_due : ∀ {state : State} {error : Error} (byte : UInt8), Valid state →
    scanner.atSegmentEnd state = some error →
      scanner.accept state byte = .failed error ∨
        ∃ next, scanner.accept state byte = .more next ∧ scanner.atSegmentEnd next = some error

variable {scanner : Scanner State Value Error} {Valid : State → Prop} {state next : State}
  {first second rest : Bytes} {value : Value} {error : Error}

namespace Steady

theorem valid_scan (steady : scanner.Steady Valid) (valid : Valid state)
    (scanned : scanner.scan state first = .more next) : Valid next := by
  induction first generalizing state with
  | nil =>
      cases scanned
      exact valid
  | cons byte first ih =>
      simp only [scan] at scanned
      cases accepted : scanner.accept state byte with
      | more middle =>
          simp only [accepted] at scanned
          exact ih (steady.valid_accept valid accepted) scanned
      | done value => simp [accepted] at scanned
      | failed error => simp [accepted] at scanned
      | refused error => simp [accepted] at scanned

theorem feed_of_due (steady : scanner.Steady Valid) (valid : Valid state)
    (due : scanner.atSegmentEnd state = some error) (bytes : Bytes) :
    ∃ rest, scanner.feed state bytes = .failed error rest := by
  induction bytes generalizing state with
  | nil => exact ⟨[], by rw [feed, due]⟩
  | cons byte bytes ih =>
      simp only [feed]
      rcases steady.accept_of_due byte valid due with failed | ⟨next, accepted, stillDue⟩
      · exact ⟨bytes, by rw [failed]⟩
      · simp only [accepted]
        exact ih (steady.valid_accept valid accepted) stillDue

end Steady

theorem feed_append_of_more (fed : scanner.feed state first = .more next) :
    scanner.feed state (first ++ second) = scanner.feed next second :=
  feed_append_of_scan (feed_eq_more_iff.mp fed).1

theorem feed_append_of_done (fed : scanner.feed state first = .done value rest) :
    scanner.feed state (first ++ second) = .done value (rest ++ second) :=
  feed_eq_done_iff.mpr (scan_append_of_done (feed_eq_done_iff.mp fed))

/-- A steady scanner that fails on a segment fails in the same way if the segment is
longer. -/
theorem Steady.feed_append_of_failed (steady : scanner.Steady Valid) (valid : Valid state)
    (fed : scanner.feed state first = .failed error rest) (second : Bytes) :
    ∃ left, scanner.feed state (first ++ second) = .failed error left := by
  rcases feed_eq_failed_iff.mp fed with scanned | ⟨last, scanned, due, _⟩
  · refine ⟨rest ++ second, feed_eq_failed_iff.mpr (Or.inl ?_)⟩
    simp only [scan_append, scanned]
  · simp only [feed_append_of_scan scanned]
    exact steady.feed_of_due (steady.valid_scan valid scanned) due second

/-- How a run over segments stands that were read as one. -/
def RunsAs (scanner : Scanner State Value Error) (alarm : Alarm State Error)
    (ending : Source.Ending) (now : Nat) (run : Run State Value Error) :
    Scan State Value Error → Prop
  | .more next => run = scanner.run alarm ending now next []
  | .done value rest =>
      ∃ left : List Bytes, left.flatten = rest ∧ run = ⟨now, .done value, left.map .segment⟩
  | .failed error _ => ∃ left : List Bytes, run = ⟨now, .failed error, left.map .segment⟩

/-- A run of a steady scanner over segments stands as if all their bytes were one segment. -/
theorem Steady.run_segments (steady : scanner.Steady Valid) (alarm : Alarm State Error)
    (ending : Source.Ending) (now : Nat) (valid : Valid state)
    (within : scanner.atSegmentEnd state = none) (segments : List Bytes) :
    scanner.RunsAs alarm ending now (scanner.run alarm ending now state (segments.map .segment))
      (scanner.feed state segments.flatten) := by
  induction segments generalizing state with
  | nil =>
      simp only [List.flatten_nil, feed, within]
      rfl
  | cons segment segments ih =>
      simp only [List.map_cons, List.flatten_cons, run]
      cases fed : scanner.feed state segment with
      | more next =>
          simp only [feed_append_of_more fed]
          rcases feed_eq_more_iff.mp fed with ⟨scanned, nothingDue⟩
          exact ih (steady.valid_scan valid scanned) nothingDue
      | done value rest =>
          simp only [feed_append_of_done fed]
          exact ⟨rest :: segments, rfl, rfl⟩
      | failed error rest =>
          rcases steady.feed_append_of_failed valid fed segments.flatten with ⟨left, failed⟩
          simp only [failed]
          exact ⟨rest :: segments, rfl⟩

end Scanner

end HttpRelay
