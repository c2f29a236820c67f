import HttpRelay.Stream.Scanner

/-!
# Scanning

The steps of a scanner over a byte string, with segments and delays left out. A run over a
source differs from this plain scan only in the moment at which it may stop, so each run is
a scan of the bytes that it took, followed by one event that ended it. All facts about runs
are reduced to facts about single bytes by the two descriptions below: `scan_append` for
bytes that arrive in parts, and `exists_stop_run` for a whole run.
-/

namespace HttpRelay

universe u v w

variable {State : Type u} {Value : Type v} {Error : Type w}

namespace Source

@[simp]
theorem bytesOf_nil : bytesOf [] = [] := rfl

@[simp]
theorem bytesOf_segment (bytes : Bytes) (items : List Item) :
    bytesOf (.segment bytes :: items) = bytes ++ bytesOf items := rfl

@[simp]
theorem bytesOf_delay (milliseconds : Nat) (items : List Item) :
    bytesOf (.delay milliseconds :: items) = bytesOf items := rfl

end Source

/-- What a verdict comes to has a property, which depends on whether it is an end. -/
def Verdict.Holds (onMore : State → Prop) (onDone : Value → Prop) (onFailed : Error → Prop) :
    Verdict State Value Error → Prop
  | .more state => onMore state
  | .done value => onDone value
  | .failed error | .refused error => onFailed error

def Scan.Holds (onMore : State → Prop) (onDone : Value → Prop) (onFailed : Error → Prop) :
    Scan State Value Error → Prop
  | .more state => onMore state
  | .done value _ => onDone value
  | .failed error _ => onFailed error

namespace Scanner

/-- Reads bytes with no segment that ends among them or after them. -/
def scan (scanner : Scanner State Value Error) : State → Bytes → Scan State Value Error
  | state, [] => .more state
  | state, byte :: rest =>
      match scanner.accept state byte with
      | .more next => scan scanner next rest
      | .done value => .done value rest
      | .failed error => .failed error rest
      | .refused error => .failed error (byte :: rest)

/-- A scan that goes on from a verdict. -/
def resume (scanner : Scanner State Value Error) (rest : Bytes) :
    Verdict State Value Error → Scan State Value Error
  | .more next => scanner.scan next rest
  | .done value => .done value rest
  | .failed error | .refused error => .failed error rest

/-- What becomes of a scan when the segment ends behind it. -/
def endSegment (scanner : Scanner State Value Error) :
    Scan State Value Error → Scan State Value Error
  | .more state =>
      match scanner.atSegmentEnd state with
      | some error => .failed error []
      | none => .more state
  | .done value rest => .done value rest
  | .failed error rest => .failed error rest

variable {scanner : Scanner State Value Error} {state next : State} {byte : UInt8}
  {bytes rest : Bytes} {value : Value} {error : Error}

@[simp]
theorem scan_nil : scanner.scan state [] = .more state := rfl

theorem scan_cons_of_more (accepted : scanner.accept state byte = .more next) :
    scanner.scan state (byte :: bytes) = scanner.scan next bytes := by
  simp only [scan, accepted]

theorem scan_cons_of_done (accepted : scanner.accept state byte = .done value) :
    scanner.scan state (byte :: bytes) = .done value bytes := by
  simp only [scan, accepted]

theorem scan_cons_of_failed (accepted : scanner.accept state byte = .failed error) :
    scanner.scan state (byte :: bytes) = .failed error bytes := by
  simp only [scan, accepted]

theorem scan_cons_of_refused (accepted : scanner.accept state byte = .refused error) :
    scanner.scan state (byte :: bytes) = .failed error (byte :: bytes) := by
  simp only [scan, accepted]

/-- Reading a segment is a plain scan, with the end of the segment behind it. -/
theorem feed_eq_endSegment_scan (state : State) (bytes : Bytes) :
    scanner.feed state bytes = scanner.endSegment (scanner.scan state bytes) := by
  induction bytes generalizing state with
  | nil => rfl
  | cons byte bytes ih =>
      simp only [feed, scan]
      cases scanner.accept state byte with
      | more next => exact ih next
      | done value => rfl
      | failed error => rfl
      | refused error => rfl

theorem feed_eq_more_iff :
    scanner.feed state bytes = .more next ↔
      scanner.scan state bytes = .more next ∧ scanner.atSegmentEnd next = none := by
  simp only [feed_eq_endSegment_scan]
  cases scanned : scanner.scan state bytes with
  | more last =>
      cases ended : scanner.atSegmentEnd last with
      | none =>
          simp only [endSegment, ended, Scan.more.injEq]
          constructor
          · rintro rfl
            exact ⟨rfl, ended⟩
          · exact And.left
      | some error =>
          simp only [endSegment, ended, Scan.more.injEq, reduceCtorEq, false_iff, not_and]
          rintro rfl
          simp [ended]
  | done value rest => simp [endSegment]
  | failed error rest => simp [endSegment]

theorem feed_eq_done_iff :
    scanner.feed state bytes = .done value rest ↔ scanner.scan state bytes = .done value rest := by
  simp only [feed_eq_endSegment_scan]
  cases scanned : scanner.scan state bytes with
  | more last => cases ended : scanner.atSegmentEnd last <;> simp [endSegment, ended]
  | done value rest => rfl
  | failed error rest => rfl

/-- A segment fails at one of its bytes, or at its end. -/
theorem feed_eq_failed_iff :
    scanner.feed state bytes = .failed error rest ↔
      scanner.scan state bytes = .failed error rest ∨
        ∃ last, scanner.scan state bytes = .more last ∧ scanner.atSegmentEnd last = some error ∧
          rest = [] := by
  simp only [feed_eq_endSegment_scan]
  cases scanned : scanner.scan state bytes with
  | more last => cases ended : scanner.atSegmentEnd last <;> simp [endSegment, ended, eq_comm]
  | done value rest => simp [endSegment]
  | failed error rest => simp [endSegment]

/-- A scan that ended leaves further bytes unread, and one that did not goes on with them. -/
theorem scan_append (state : State) (first second : Bytes) :
    scanner.scan state (first ++ second) =
      match scanner.scan state first with
      | .more next => scanner.scan next second
      | .done value rest => .done value (rest ++ second)
      | .failed error rest => .failed error (rest ++ second) := by
  induction first generalizing state with
  | nil => rfl
  | cons byte first ih =>
      simp only [List.cons_append, scan]
      cases scanner.accept state byte with
      | more next => exact ih next
      | done value => rfl
      | failed error => rfl
      | refused error => rfl

theorem scan_append_of_more {first second : Bytes}
    (scanned : scanner.scan state first = .more next) :
    scanner.scan state (first ++ second) = scanner.scan next second := by
  simp only [scan_append, scanned]

theorem scan_append_of_done {first second : Bytes}
    (scanned : scanner.scan state first = .done value rest) :
    scanner.scan state (first ++ second) = .done value (rest ++ second) := by
  simp only [scan_append, scanned]

theorem feed_append_of_scan {first second : Bytes}
    (scanned : scanner.scan state first = .more next) :
    scanner.feed state (first ++ second) = scanner.feed next second := by
  simp only [feed_eq_endSegment_scan, scan_append_of_more scanned]

/-- What every byte keeps, and the end of a segment as well, a segment keeps. -/
theorem feed_holds {onMore : State → Prop} {onDone : Value → Prop} {onFailed : Error → Prop}
    (accept : ∀ state byte, onMore state →
      (scanner.accept state byte).Holds onMore onDone onFailed)
    (atSegmentEnd : ∀ state error, onMore state → scanner.atSegmentEnd state = some error →
      onFailed error)
    (bytes : Bytes) (holds : onMore state) :
    (scanner.feed state bytes).Holds onMore onDone onFailed := by
  induction bytes generalizing state with
  | nil =>
      simp only [feed]
      cases ended : scanner.atSegmentEnd state with
      | none => exact holds
      | some error => exact atSegmentEnd state error holds ended
  | cons byte bytes ih =>
      have step := accept state byte holds
      simp only [feed]
      cases accepted : scanner.accept state byte with
      | more next =>
          simp only [accepted] at step
          exact ih step
      | done value =>
          simp only [accepted] at step
          exact step
      | failed error =>
          simp only [accepted] at step
          exact step
      | refused error =>
          simp only [accepted] at step
          exact step

/-- A value is complete at the last byte that was taken. -/
theorem exists_stop_of_scan_done (scanned : scanner.scan state bytes = .done value rest) :
    ∃ taken byte stop, bytes = taken ++ byte :: rest ∧ scanner.scan state taken = .more stop ∧
      scanner.accept stop byte = .done value := by
  induction bytes generalizing state with
  | nil => cases scanned
  | cons byte bytes ih =>
      simp only [scan] at scanned
      cases accepted : scanner.accept state byte with
      | more next =>
          simp only [accepted] at scanned
          rcases ih scanned with ⟨taken, last, stop, rfl, reached, done⟩
          exact ⟨byte :: taken, last, stop, rfl, (scan_cons_of_more accepted).trans reached, done⟩
      | done value =>
          simp only [accepted, Scan.done.injEq] at scanned
          rcases scanned with ⟨rfl, rfl⟩
          exact ⟨[], byte, state, rfl, rfl, accepted⟩
      | failed error => simp [accepted] at scanned
      | refused error => simp [accepted] at scanned

theorem exists_stop_of_scan_failed (scanned : scanner.scan state bytes = .failed error rest) :
    ∃ taken byte stop, scanner.scan state taken = .more stop ∧
      ((bytes = taken ++ byte :: rest ∧ scanner.accept stop byte = .failed error) ∨
        (∃ after, rest = byte :: after ∧ bytes = taken ++ rest ∧
          scanner.accept stop byte = .refused error)) := by
  induction bytes generalizing state with
  | nil => cases scanned
  | cons byte bytes ih =>
      simp only [scan] at scanned
      cases accepted : scanner.accept state byte with
      | more next =>
          simp only [accepted] at scanned
          rcases ih scanned with ⟨taken, last, stop, reached, failed⟩
          refine ⟨byte :: taken, last, stop, (scan_cons_of_more accepted).trans reached, ?_⟩
          rcases failed with ⟨rfl, failed⟩ | ⟨after, restEq, rfl, refused⟩
          · exact Or.inl ⟨rfl, failed⟩
          · exact Or.inr ⟨after, restEq, rfl, refused⟩
      | done value => simp [accepted] at scanned
      | failed error =>
          simp only [accepted, Scan.failed.injEq] at scanned
          rcases scanned with ⟨rfl, rfl⟩
          exact ⟨[], byte, state, rfl, Or.inl ⟨rfl, accepted⟩⟩
      | refused error =>
          simp only [accepted, Scan.failed.injEq] at scanned
          rcases scanned with ⟨rfl, rfl⟩
          exact ⟨[], byte, state, rfl, Or.inr ⟨bytes, rfl, rfl, accepted⟩⟩

/-- What can end a run at a state with an error, and the byte that it saw for that, if it saw
one. -/
inductive FailsAt (scanner : Scanner State Value Error) (alarm : Alarm State Error)
    (stop : State) : Bytes → Error → Prop where
  | onByte {byte : UInt8} {error : Error} (accepted : scanner.accept stop byte = .failed error) :
      FailsAt scanner alarm stop [byte] error
  | beforeByte {byte : UInt8} {error : Error}
      (accepted : scanner.accept stop byte = .refused error) :
      FailsAt scanner alarm stop [byte] error
  | onSegmentEnd {error : Error} (ended : scanner.atSegmentEnd stop = some error) :
      FailsAt scanner alarm stop [] error
  | onWait {error : Error} (waited : scanner.atWait stop = some error) :
      FailsAt scanner alarm stop [] error
  | onCut (cut : Cut) : FailsAt scanner alarm stop [] (scanner.atCut stop cut)
  | onAlarm {now time : Nat} {arrival : Option Nat} {error : Error}
      (rang : alarm stop now arrival = some (time, error)) : FailsAt scanner alarm stop [] error

/-- How a run ended that began with the given items: it took some bytes, reached a state with
them, and stopped there. -/
structure StopsAt (scanner : Scanner State Value Error) (alarm : Alarm State Error)
    (ending : Source.Ending) (state : State) (items : List Source.Item) (taken : Bytes)
    (stop : State) (run : Run State Value Error) : Prop where
  reached : scanner.scan state taken = .more stop
  ended :
    match run.outcome with
    | .done value =>
        ∃ byte, scanner.accept stop byte = .done value ∧
          Source.bytesOf items = taken ++ byte :: Source.bytesOf run.items
    | .failed error =>
        ∃ last, scanner.FailsAt alarm stop last error ∧ taken ++ last <+: Source.bytesOf items
    | .waiting final =>
        final = stop ∧ Source.bytesOf items = taken ∧ ending = .stalled ∧
          scanner.atWait stop = none ∧ alarm stop run.time none = none

theorem StopsAt.of_scan {alarm : Alarm State Error} {ending : Source.Ending}
    {items later : List Source.Item} {first taken : Bytes} {stop : State}
    {run : Run State Value Error} (scanned : scanner.scan state first = .more next)
    (split : Source.bytesOf items = first ++ Source.bytesOf later)
    (stopped : scanner.StopsAt alarm ending next later taken stop run) :
    scanner.StopsAt alarm ending state items (first ++ taken) stop run := by
  refine ⟨(scan_append_of_more scanned).trans stopped.reached, ?_⟩
  have ended := stopped.ended
  cases outcome : run.outcome with
  | done value =>
      simp only [outcome] at ended ⊢
      rcases ended with ⟨byte, accepted, laterEq⟩
      exact ⟨byte, accepted, by rw [split, laterEq, List.append_assoc]⟩
  | failed error =>
      simp only [outcome] at ended ⊢
      rcases ended with ⟨last, fails, isPrefix⟩
      refine ⟨last, fails, ?_⟩
      simp only [split, List.append_assoc]
      exact (List.prefix_append_right_inj first).mpr isPrefix
  | waiting final =>
      simp only [outcome] at ended ⊢
      rcases ended with ⟨rfl, laterEq, stalled, waits, silent⟩
      exact ⟨rfl, by rw [split, laterEq], stalled, waits, silent⟩

theorem StopsAt.of_fails {alarm : Alarm State Error} {ending : Source.Ending}
    {items : List Source.Item} {run : Run State Value Error}
    (outcome : run.outcome = .failed error) (fails : scanner.FailsAt alarm state [] error) :
    scanner.StopsAt alarm ending state items [] state run := by
  refine ⟨rfl, ?_⟩
  simp only [outcome]
  exact ⟨[], fails, List.nil_prefix⟩

/-- Every run is a scan of the bytes that it took and one event that ended it. -/
theorem exists_stop_run (scanner : Scanner State Value Error) (alarm : Alarm State Error)
    (ending : Source.Ending) (now : Nat) (state : State) (items : List Source.Item) :
    ∃ taken stop, scanner.StopsAt alarm ending state items taken stop
      (scanner.run alarm ending now state items) := by
  induction items generalizing now state with
  | nil =>
      refine ⟨[], state, ?_⟩
      cases ending with
      | finished => exact StopsAt.of_fails rfl (.onCut .finished)
      | broken kind => exact StopsAt.of_fails rfl (.onCut (.broken kind))
      | stalled =>
          simp only [run]
          cases waited : scanner.atWait state with
          | some error => exact StopsAt.of_fails rfl (.onWait waited)
          | none =>
              cases rang : alarm state now none with
              | some ring => exact StopsAt.of_fails rfl (.onAlarm rang)
              | none => exact ⟨rfl, rfl, rfl, rfl, waited, rang⟩
  | cons item items ih =>
      cases item with
      | segment bytes =>
          simp only [run, feed_eq_endSegment_scan]
          cases scanned : scanner.scan state bytes with
          | more next =>
              simp only [endSegment]
              cases ended : scanner.atSegmentEnd next with
              | some error =>
                  have split : Source.bytesOf (.segment bytes :: items) =
                      bytes ++ Source.bytesOf items := rfl
                  refine ⟨bytes ++ [], next, StopsAt.of_scan scanned split ?_⟩
                  exact StopsAt.of_fails rfl (.onSegmentEnd ended)
              | none =>
                  rcases ih now next with ⟨taken, stop, stopped⟩
                  exact ⟨bytes ++ taken, stop, StopsAt.of_scan scanned rfl stopped⟩
          | done value rest =>
              rcases exists_stop_of_scan_done scanned with ⟨taken, byte, stop, rfl, reached, done⟩
              refine ⟨taken, stop, reached, byte, done, ?_⟩
              simp [endSegment]
          | failed error rest =>
              rcases exists_stop_of_scan_failed scanned with ⟨taken, byte, stop, reached, failed⟩
              refine ⟨taken, stop, reached, ?_⟩
              rcases failed with ⟨rfl, failed⟩ | ⟨after, rfl, rfl, refused⟩
              · refine ⟨[byte], .onByte failed, rest ++ Source.bytesOf items, ?_⟩
                simp
              · refine ⟨[byte], .beforeByte refused, after ++ Source.bytesOf items, ?_⟩
                simp
      | delay milliseconds =>
          cases milliseconds with
          | zero =>
              simp only [run]
              rcases ih now state with ⟨taken, stop, stopped⟩
              exact ⟨[] ++ taken, stop, StopsAt.of_scan rfl rfl stopped⟩
          | succ milliseconds =>
              simp only [run]
              cases waited : scanner.atWait state with
              | some error => exact ⟨[], state, StopsAt.of_fails rfl (.onWait waited)⟩
              | none =>
                  cases rang : alarm state now (some (now + (milliseconds + 1))) with
                  | some ring => exact ⟨[], state, StopsAt.of_fails rfl (.onAlarm rang)⟩
                  | none =>
                      rcases ih (now + (milliseconds + 1)) state with ⟨taken, stop, stopped⟩
                      exact ⟨[] ++ taken, stop, StopsAt.of_scan rfl rfl stopped⟩

end Scanner

end HttpRelay
