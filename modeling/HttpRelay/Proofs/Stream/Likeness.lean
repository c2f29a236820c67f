import HttpRelay.Proofs.Stream.Scanning

/-!
# Runs that are alike

Two runs of a scanner over the same source, from states that correspond in some way. A scanner
that does alike in such states has runs that are alike in all that they show
(`Scanner.IsAlikeUntil.run`), unless the second run comes to a byte at which it fails and the first
does not. The two have then taken the same bytes so far, and whatever the first run makes of that
byte and keeps from then on, it still has at its end.
-/

namespace HttpRelay

universe u v w

variable {State : Type u} {Value : Type v} {Error : Type w}

/-- How the states, the values, and the errors of two runs correspond. -/
structure Likeness (State : Type u) (Value : Type v) (Error : Type w) where
  state : State → State → Prop
  value : Value → Value → Prop
  error : Error → Error → Prop

inductive Verdict.IsLike (like : Likeness State Value Error) :
    Verdict State Value Error → Verdict State Value Error → Prop where
  | more {state other : State} (states : like.state state other) :
      IsLike like (.more state) (.more other)
  | done {value other : Value} (values : like.value value other) :
      IsLike like (.done value) (.done other)
  | failed {error other : Error} (errors : like.error error other) :
      IsLike like (.failed error) (.failed other)
  | refused {error other : Error} (errors : like.error error other) :
      IsLike like (.refused error) (.refused other)

/-- Scans that are alike leave the same bytes. -/
inductive Scan.IsLike (like : Likeness State Value Error) :
    Scan State Value Error → Scan State Value Error → Prop where
  | more {state other : State} (states : like.state state other) :
      IsLike like (.more state) (.more other)
  | done {value other : Value} (values : like.value value other) (rest : Bytes) :
      IsLike like (.done value rest) (.done other rest)
  | failed {error other : Error} (errors : like.error error other) (rest : Bytes) :
      IsLike like (.failed error rest) (.failed other rest)

inductive Outcome.IsLike (like : Likeness State Value Error) :
    Outcome State Value Error → Outcome State Value Error → Prop where
  | done {value other : Value} (values : like.value value other) :
      IsLike like (.done value) (.done other)
  | failed {error other : Error} (errors : like.error error other) :
      IsLike like (.failed error) (.failed other)
  | waiting {state other : State} (states : like.state state other) :
      IsLike like (.waiting state) (.waiting other)

/-- Runs that stand still at the same time, leave the same unread, and are alike. -/
structure Run.IsLike (like : Likeness State Value Error) (first second : Run State Value Error) :
    Prop where
  time : first.time = second.time
  outcome : first.outcome.IsLike like second.outcome
  items : first.items = second.items

def Outcome.Holds (onMore : State → Prop) (onDone : Value → Prop) (onFailed : Error → Prop) :
    Outcome State Value Error → Prop
  | .done value => onDone value
  | .failed error => onFailed error
  | .waiting state => onMore state

namespace Scanner

/-- What a run keeps once it has it. -/
structure Keeps (scanner : Scanner State Value Error) (onMore : State → Prop)
    (onDone : Value → Prop) (onFailed : Error → Prop) : Prop where
  accept : ∀ state byte, onMore state → (scanner.accept state byte).Holds onMore onDone onFailed
  atSegmentEnd : ∀ state error, onMore state → scanner.atSegmentEnd state = some error →
    onFailed error
  atWait : ∀ state error, onMore state → scanner.atWait state = some error → onFailed error
  atCut : ∀ state cut, onMore state → onFailed (scanner.atCut state cut)

/-- A scanner that does alike in states that are alike, unless the second fails at a byte in the
given way. -/
structure IsAlikeUntil (scanner : Scanner State Value Error) (like : Likeness State Value Error)
    (ends : State → UInt8 → Verdict State Value Error → Prop) : Prop where
  accept : ∀ {state other : State} (byte : UInt8), like.state state other →
    (scanner.accept state byte).IsLike like (scanner.accept other byte) ∨
      ends state byte (scanner.accept other byte)
  fails : ∀ {state : State} {byte : UInt8} {verdict : Verdict State Value Error},
    ends state byte verdict → ∃ error, verdict = .failed error ∨ verdict = .refused error
  atSegmentEnd : ∀ {state other : State}, like.state state other →
    Option.Rel like.error (scanner.atSegmentEnd state) (scanner.atSegmentEnd other)
  atWait : ∀ {state other : State}, like.state state other →
    Option.Rel like.error (scanner.atWait state) (scanner.atWait other)
  atCut : ∀ {state other : State} (cut : Cut), like.state state other →
    like.error (scanner.atCut state cut) (scanner.atCut other cut)

/-- Where the second of two runs fails: what both have taken, the byte at which it fails, and the
states in which the runs see it. -/
structure Parting (State : Type u) (Error : Type w) where
  taken : Bytes
  byte : UInt8
  after : Bytes
  stop : State
  other : State
  error : Error

/-- Two runs part there that began in the given state, with the given bytes before them, and the
second leaves the bytes behind unread. -/
structure Parting.IsAt (parting : Parting State Error) (scanner : Scanner State Value Error)
    (like : Likeness State Value Error) (ends : State → UInt8 → Verdict State Value Error → Prop)
    (state : State) (bytes left : Bytes) : Prop where
  split : bytes = parting.taken ++ parting.byte :: parting.after
  reached : scanner.scan state parting.taken = .more parting.stop
  alike : like.state parting.stop parting.other
  ends : ends parting.stop parting.byte (scanner.accept parting.other parting.byte)
  left :
    (scanner.accept parting.other parting.byte = .failed parting.error ∧ left = parting.after) ∨
      (scanner.accept parting.other parting.byte = .refused parting.error ∧
        left = parting.byte :: parting.after)

variable {scanner : Scanner State Value Error} {like : Likeness State Value Error}
  {ends : State → UInt8 → Verdict State Value Error → Prop} {state other next : State}
  {bytes first left : Bytes} {parting : Parting State Error} {alarm : Alarm State Error}

namespace Parting.IsAt

/-- Bytes in front of which the two runs do not part. -/
theorem behind (isAt : parting.IsAt scanner like ends next bytes left)
    (scanned : scanner.scan state first = .more next) :
    Parting.IsAt { parting with taken := first ++ parting.taken } scanner like ends state
      (first ++ bytes) left where
  split := by rw [isAt.split, List.append_assoc]
  reached := (scan_append_of_more scanned).trans isAt.reached
  alike := isAt.alike
  ends := isAt.ends
  left := isAt.left

theorem append (isAt : parting.IsAt scanner like ends state bytes left) (more : Bytes) :
    Parting.IsAt { parting with after := parting.after ++ more } scanner like ends state
      (bytes ++ more) (left ++ more) where
  split := by rw [isAt.split, List.append_assoc, List.cons_append]
  reached := isAt.reached
  alike := isAt.alike
  ends := isAt.ends
  left := by
    rcases isAt.left with ⟨failed, rfl⟩ | ⟨refused, rfl⟩
    · exact Or.inl ⟨failed, rfl⟩
    · exact Or.inr ⟨refused, rfl⟩

end Parting.IsAt

section Keeps

variable {onMore : State → Prop} {onDone : Value → Prop} {onFailed : Error → Prop}

theorem Keeps.feed (keeps : scanner.Keeps onMore onDone onFailed) (holds : onMore state)
    (bytes : Bytes) : (scanner.feed state bytes).Holds onMore onDone onFailed :=
  feed_holds keeps.accept keeps.atSegmentEnd bytes holds

theorem Keeps.feed_cons (keeps : scanner.Keeps onMore onDone onFailed) {byte : UInt8}
    (holds : (scanner.accept state byte).Holds onMore onDone onFailed) (bytes : Bytes) :
    (scanner.feed state (byte :: bytes)).Holds onMore onDone onFailed := by
  simp only [Scanner.feed]
  cases verdict : scanner.accept state byte with
  | more next =>
      rw [verdict] at holds
      exact keeps.feed holds bytes
  | done value =>
      rw [verdict] at holds
      exact holds
  | failed error =>
      rw [verdict] at holds
      exact holds
  | refused error =>
      rw [verdict] at holds
      exact holds

theorem run_segment_holds {ending : Source.Ending} {now : Nat} {items : List Source.Item}
    (fed : (scanner.feed state bytes).Holds onMore onDone onFailed)
    (goesOn : ∀ next, onMore next →
      (scanner.run alarm ending now next items).outcome.Holds onMore onDone onFailed) :
    (scanner.run alarm ending now state (.segment bytes :: items)).outcome.Holds onMore onDone
      onFailed := by
  simp only [Scanner.run]
  cases scanned : scanner.feed state bytes with
  | more next =>
      rw [scanned] at fed
      exact goesOn next fed
  | done value rest =>
      rw [scanned] at fed
      exact fed
  | failed error rest =>
      rw [scanned] at fed
      exact fed

/-- What an alarm says has to be kept as well. -/
theorem Keeps.run (keeps : scanner.Keeps onMore onDone onFailed)
    (rings : ∀ {state now arrival time error}, onMore state →
      alarm state now arrival = some (time, error) → onFailed error)
    (ending : Source.Ending) (now : Nat) (items : List Source.Item) (holds : onMore state) :
    (scanner.run alarm ending now state items).outcome.Holds onMore onDone onFailed := by
  induction items generalizing now state with
  | nil =>
      cases ending with
      | finished => exact keeps.atCut state .finished holds
      | broken kind => exact keeps.atCut state (.broken kind) holds
      | stalled =>
          simp only [Scanner.run]
          cases waited : scanner.atWait state with
          | some error => exact keeps.atWait state error holds waited
          | none =>
              cases rang : alarm state now none with
              | some ring => exact rings holds rang
              | none => exact holds
  | cons item items ih =>
      cases item with
      | segment bytes => exact run_segment_holds (keeps.feed holds bytes) fun _ => ih now
      | delay milliseconds =>
          cases milliseconds with
          | zero => exact ih now holds
          | succ milliseconds =>
              simp only [Scanner.run]
              cases waited : scanner.atWait state with
              | some error => exact keeps.atWait state error holds waited
              | none =>
                  cases rang : alarm state now (some (now + (milliseconds + 1))) with
                  | some ring => exact rings holds rang
                  | none => exact ih (now + (milliseconds + 1)) holds

end Keeps

namespace IsAlikeUntil

theorem feed (alike : scanner.IsAlikeUntil like ends) (states : like.state state other)
    (bytes : Bytes) :
    (scanner.feed state bytes).IsLike like (scanner.feed other bytes) ∨
      ∃ (parting : Parting State Error) (left : Bytes),
        parting.IsAt scanner like ends state bytes left ∧
          scanner.feed other bytes = .failed parting.error left ∧
          ∀ {onMore onDone onFailed}, scanner.Keeps onMore onDone onFailed →
            (scanner.accept parting.stop parting.byte).Holds onMore onDone onFailed →
              (scanner.feed state bytes).Holds onMore onDone onFailed := by
  induction bytes generalizing state other with
  | nil =>
      left
      have ended := alike.atSegmentEnd states
      simp only [Scanner.feed]
      cases atEnd : scanner.atSegmentEnd state <;> cases atOther : scanner.atSegmentEnd other <;>
        simp only [atEnd, atOther] at ended
      · exact .more states
      · cases ended
      · cases ended
      · cases ended with
        | some errors => exact .failed errors []
  | cons byte bytes ih =>
      simp only [Scanner.feed]
      rcases alike.accept byte states with accepted | ended
      · cases verdict : scanner.accept state byte <;>
          cases otherVerdict : scanner.accept other byte <;>
          rw [verdict, otherVerdict] at accepted <;> cases accepted
        case more.more.more next otherNext nextStates =>
          rcases ih nextStates with same | ⟨parting, left, isAt, failed, goesOn⟩
          · exact Or.inl same
          · have scanned : scanner.scan state [byte] = .more next := scan_cons_of_more verdict
            exact Or.inr ⟨_, left, isAt.behind scanned, failed, goesOn⟩
        case done.done.done values => exact Or.inl (.done values bytes)
        case failed.failed.failed errors => exact Or.inl (.failed errors bytes)
        case refused.refused.refused errors => exact Or.inl (.failed errors (byte :: bytes))
      · rcases alike.fails ended with ⟨error, failed | refused⟩
        · refine Or.inr ⟨⟨[], byte, bytes, state, other, error⟩, bytes,
            ⟨rfl, rfl, states, ended, Or.inl ⟨failed, rfl⟩⟩, ?_, ?_⟩
          · rw [failed]
          · intro onMore onDone onFailed keeps holds
            exact keeps.feed_cons holds bytes
        · refine Or.inr ⟨⟨[], byte, bytes, state, other, error⟩, byte :: bytes,
            ⟨rfl, rfl, states, ended, Or.inr ⟨refused, rfl⟩⟩, ?_, ?_⟩
          · rw [refused]
          · intro onMore onDone onFailed keeps holds
            exact keeps.feed_cons holds bytes

/-- Runs that nothing ends while they wait are alike, or the second fails at a byte that the first
goes past. -/
theorem run (alike : scanner.IsAlikeUntil like ends)
    (silent : ∀ state now arrival, alarm state now arrival = none) (ending : Source.Ending)
    (now : Nat) (items : List Source.Item) (states : like.state state other) :
    Run.IsLike like (scanner.run alarm ending now state items)
        (scanner.run alarm ending now other items) ∨
      ∃ parting : Parting State Error,
        parting.IsAt scanner like ends state (Source.bytesOf items)
            (Source.bytesOf (scanner.run alarm ending now other items).items) ∧
          (scanner.run alarm ending now other items).outcome = .failed parting.error ∧
          ∀ {onMore onDone onFailed}, scanner.Keeps onMore onDone onFailed →
            (scanner.accept parting.stop parting.byte).Holds onMore onDone onFailed →
              (scanner.run alarm ending now state items).outcome.Holds onMore onDone onFailed := by
  induction items generalizing now state other with
  | nil =>
      left
      cases ending with
      | finished => exact ⟨rfl, .failed (alike.atCut .finished states), rfl⟩
      | broken kind => exact ⟨rfl, .failed (alike.atCut (.broken kind) states), rfl⟩
      | stalled =>
          have waited := alike.atWait states
          simp only [Scanner.run, silent]
          cases waits : scanner.atWait state <;> cases otherWaits : scanner.atWait other <;>
            rw [waits, otherWaits] at waited <;> cases waited
          case none.none.none => exact ⟨rfl, .waiting states, rfl⟩
          case some.some.some errors => exact ⟨rfl, .failed errors, rfl⟩
  | cons item items ih =>
      cases item with
      | segment bytes =>
          simp only [Scanner.run]
          rcases alike.feed states bytes with fed | ⟨parting, left, isAt, failed, goesOn⟩
          · cases scan : scanner.feed state bytes <;> cases otherScan : scanner.feed other bytes <;>
              rw [scan, otherScan] at fed <;> cases fed
            case more.more.more next otherNext nextStates =>
              rcases ih now nextStates with same | ⟨parting, isAt, failed, goesOn⟩
              · exact Or.inl same
              · exact Or.inr ⟨_, isAt.behind (feed_eq_more_iff.mp scan).1, failed, goesOn⟩
            case done.done.done rest values => exact Or.inl ⟨rfl, .done values, rfl⟩
            case failed.failed.failed rest errors => exact Or.inl ⟨rfl, .failed errors, rfl⟩
          · refine Or.inr
              ⟨{ parting with after := parting.after ++ Source.bytesOf items }, ?_, ?_, ?_⟩
            · simp only [failed]
              exact isAt.append (Source.bytesOf items)
            · simp only [failed]
            · intro onMore onDone onFailed keeps holds
              exact run_segment_holds (goesOn keeps holds)
                fun _ => keeps.run (fun _ rang => by simp [silent] at rang) ending now items
      | delay milliseconds =>
          cases milliseconds with
          | zero => exact ih now states
          | succ milliseconds =>
              have waited := alike.atWait states
              simp only [Scanner.run, silent]
              cases waits : scanner.atWait state <;> cases otherWaits : scanner.atWait other <;>
                rw [waits, otherWaits] at waited <;> cases waited
              case none.none.none => exact ih (now + (milliseconds + 1)) states
              case some.some.some errors => exact Or.inl ⟨rfl, .failed errors, rfl⟩

end IsAlikeUntil

end Scanner

end HttpRelay
