import HttpRelay.Proofs.Stream.Scanning

/-!
# Scanners that call scanners

A scanner may read a part of its value as another scanner would. The states of the called one are
then states of the caller, and only what the called one comes to is for the caller to judge. One
byte of the correspondence is enough for whole segments (`Scanner.Calls.feed`) and for a stream to
its end (`Scanner.Calls.run`).
-/

namespace HttpRelay

universe u v w x y z

/-- The ending of a stream at which no further byte can come. -/
def Cut.ending : Cut → Source.Ending
  | .finished => .finished
  | .broken kind => .broken kind

variable {State : Type u} {Value : Type v} {Error : Type w} {Inner : Type x} {Part : Type y}
  {Fault : Type z}

/-- What a caller makes of a verdict of the scanner that it calls. -/
def Verdict.forCaller (into : Inner → State) (after : Part → Verdict State Value Error)
    (fail : Fault → Error) : Verdict Inner Part Fault → Verdict State Value Error
  | .more state => .more (into state)
  | .done part => after part
  | .failed fault => .failed (fail fault)
  | .refused fault => .refused (fail fault)

namespace Scanner

/-- A scanner reads as another one does while it is in the states of a call, and goes on from what
that one came to. -/
structure Calls (caller : Scanner State Value Error) (called : Scanner Inner Part Fault)
    (into : Inner → State) (after : Part → Verdict State Value Error) (fail : Fault → Error) :
    Prop where
  accept : ∀ state byte,
    caller.accept (into state) byte = (called.accept state byte).forCaller into after fail
  atSegmentEnd : ∀ state, caller.atSegmentEnd (into state) = (called.atSegmentEnd state).map fail
  atCut : ∀ state cut, caller.atCut (into state) cut = fail (called.atCut state cut)
  /-- The last byte of a part is taken, whatever the part means. -/
  takesLast : ∀ part error, after part ≠ .refused error

/-- A segment of which some bytes are left, by a verdict on the byte before them. -/
def feedFrom (scanner : Scanner State Value Error) (rest : Bytes) :
    Verdict State Value Error → Scan State Value Error
  | .more next => scanner.feed next rest
  | .done value => .done value rest
  | .failed error | .refused error => .failed error rest

/-- The same segment with its end left out, and then the end. -/
theorem endSegment_resume (scanner : Scanner State Value Error) (rest : Bytes)
    (verdict : Verdict State Value Error) :
    scanner.endSegment (scanner.resume rest verdict) = scanner.feedFrom rest verdict := by
  cases verdict with
  | more next => exact (feed_eq_endSegment_scan next rest).symm
  | done value | failed error | refused error => rfl

/-- A run over a stream that is cut, by a verdict on the byte before what is left of it. -/
def runFrom (scanner : Scanner State Value Error) (alarm : Alarm State Error)
    (ending : Source.Ending) (now : Nat) (items : List Source.Item) :
    Verdict State Value Error → Run State Value Error
  | .more next => scanner.run alarm ending now next items
  | .done value => ⟨now, .done value, items⟩
  | .failed error | .refused error => ⟨now, .failed error, items⟩

theorem run_cut (scanner : Scanner State Value Error) (alarm : Alarm State Error) (cut : Cut)
    (now : Nat) (state : State) :
    scanner.run alarm cut.ending now state [] = ⟨now, .failed (scanner.atCut state cut), []⟩ := by
  cases cut <;> rfl

variable {caller : Scanner State Value Error} {called : Scanner Inner Part Fault}
  {into : Inner → State} {after : Part → Verdict State Value Error} {fail : Fault → Error}

theorem Calls.feed (calls : caller.Calls called into after fail) (state : Inner) (bytes : Bytes) :
    caller.feed (into state) bytes =
      match called.feed state bytes with
      | .more next => .more (into next)
      | .done part rest => caller.feedFrom rest (after part)
      | .failed fault rest => .failed (fail fault) rest := by
  induction bytes generalizing state with
  | nil =>
      simp only [Scanner.feed, calls.atSegmentEnd]
      cases called.atSegmentEnd state <;> rfl
  | cons byte bytes ih =>
      simp only [Scanner.feed, calls.accept]
      cases called.accept state byte with
      | more next => exact ih next
      | done part =>
          simp only [Verdict.forCaller, feedFrom]
          cases verdict : after part with
          | refused error => exact absurd verdict (calls.takesLast part error)
          | more _ | done _ | failed _ => rfl
      | failed fault | refused fault => rfl

/-- What a caller makes of a run that did not wait, of the scanner that it calls. -/
def runCalled (scanner : Scanner State Value Error) (alarm : Alarm State Error)
    (ending : Source.Ending) (now : Nat) (into : Inner → State)
    (after : Part → Verdict State Value Error) (fail : Fault → Error)
    (run : Run Inner Part Fault) : Run State Value Error :=
  match run.outcome with
  | .done part => scanner.runFrom alarm ending now run.items (after part)
  | .failed fault => ⟨now, .failed (fail fault), run.items⟩
  | .waiting state => ⟨now, .waiting (into state), run.items⟩

theorem Calls.run (calls : caller.Calls called into after fail) (alarm : Alarm State Error)
    (cut : Cut) (now : Nat) (state : Inner) (segments : List Bytes) :
    caller.run alarm cut.ending now (into state) (segments.map .segment) =
      caller.runCalled alarm cut.ending now into after fail
        (called.run (fun _ _ _ => none) cut.ending now state (segments.map .segment)) := by
  induction segments generalizing state with
  | nil => simp only [List.map_nil, run_cut, calls.atCut, runCalled]
  | cons segment segments ih =>
      simp only [List.map_cons, Scanner.run, calls.feed]
      cases called.feed state segment with
      | more next => exact ih next
      | failed fault rest => rfl
      | done part rest =>
          simp only [runCalled, feedFrom]
          cases after part <;> rfl

end Scanner

end HttpRelay
