import HttpRelay.Stream.Source

/-!
# Scanners

A scanner reads a stream byte by byte and stops at the first byte that completes its value
or shows that there is none. It can be left and taken up again between any two bytes, so
the same scanner serves a recorded stream, a stream under a clock, and a connection on
which bytes arrive as they please.

Segments are visible to a scanner at two moments only: when one is used up (`atSegmentEnd`),
and when the next one is not there yet (`atWait`).
-/

namespace HttpRelay

universe u v w

/-- What a scanner makes of one byte. -/
inductive Verdict (State : Type u) (Value : Type v) (Error : Type w) where
  | more (state : State)
  | done (value : Value)
  | failed (error : Error)
  /-- Failed, and the byte was not taken. -/
  | refused (error : Error)

/-- A reader of one value from a stream of bytes. -/
structure Scanner (State : Type u) (Value : Type v) (Error : Type w) where
  accept : State → UInt8 → Verdict State Value Error
  /-- Whether to give up once a segment is used up. -/
  atSegmentEnd : State → Option Error
  /-- Whether to give up when nothing is there to be read for now. -/
  atWait : State → Option Error
  /-- The error that the end of the stream means. -/
  atCut : State → Cut → Error

/-- What a scanner has made of some bytes, and the bytes that it left. -/
inductive Scan (State : Type u) (Value : Type v) (Error : Type w) where
  | more (state : State)
  | done (value : Value) (rest : Bytes)
  | failed (error : Error) (rest : Bytes)

/-- How a run over a source stands. -/
inductive Outcome (State : Type u) (Value : Type v) (Error : Type w) where
  | done (value : Value)
  | failed (error : Error)
  /-- It waits for ever. -/
  | waiting (state : State)

/-- A run over a source: when it stood still, how it stands, and what it left unread. -/
structure Run (State : Type u) (Value : Type v) (Error : Type w) where
  time : Nat
  outcome : Outcome State Value Error
  items : List Source.Item

/-- Something that ends a wait: asked with the state, the present time, and the time at
which the source goes on (if it ever does), it gives the time at which the run ends before
that, and the error. -/
abbrev Alarm (State : Type u) (Error : Type w) :=
  State → Nat → Option Nat → Option (Nat × Error)

namespace Scanner

variable {State : Type u} {Value : Type v} {Error : Type w}

def feed (scanner : Scanner State Value Error) : State → Bytes → Scan State Value Error
  | state, [] =>
      match scanner.atSegmentEnd state with
      | some error => .failed error []
      | none => .more state
  | state, byte :: rest =>
      match scanner.accept state byte with
      | .more next => feed scanner next rest
      | .done value => .done value rest
      | .failed error => .failed error rest
      | .refused error => .failed error (byte :: rest)

/-- Reads a source from the given time on. An alarm can only ring while the run waits. -/
def run (scanner : Scanner State Value Error) (alarm : Alarm State Error)
    (ending : Source.Ending) : Nat → State → List Source.Item → Run State Value Error
  | now, state, [] =>
      match ending with
      | .finished => ⟨now, .failed (scanner.atCut state .finished), []⟩
      | .broken kind => ⟨now, .failed (scanner.atCut state (.broken kind)), []⟩
      | .stalled =>
          match scanner.atWait state with
          | some error => ⟨now, .failed error, []⟩
          | none =>
              match alarm state now none with
              | some (time, error) => ⟨time, .failed error, []⟩
              | none => ⟨now, .waiting state, []⟩
  | now, state, .segment bytes :: items =>
      match scanner.feed state bytes with
      | .more next => run scanner alarm ending now next items
      | .done value rest => ⟨now, .done value, .segment rest :: items⟩
      | .failed error rest => ⟨now, .failed error, .segment rest :: items⟩
  | now, state, .delay 0 :: items => run scanner alarm ending now state items
  | now, state, .delay (milliseconds + 1) :: items =>
      match scanner.atWait state with
      | some error => ⟨now, .failed error, items⟩
      | none =>
          match alarm state now (some (now + (milliseconds + 1))) with
          | some (time, error) => ⟨time, .failed error, items⟩
          | none => run scanner alarm ending (now + (milliseconds + 1)) state items

/-- Reads a source with nothing that ends a wait. -/
def read (scanner : Scanner State Value Error) (state : State) (source : Source) :
    Run State Value Error :=
  scanner.run (fun _ _ _ => none) source.ending 0 state source.items

/-- A value is complete at a byte, so what is left is shorter. -/
theorem length_lt_of_feed_done {scanner : Scanner State Value Error} {state : State}
    {bytes rest : Bytes} {value : Value} (done : scanner.feed state bytes = .done value rest) :
    rest.length < bytes.length := by
  induction bytes generalizing state with
  | nil =>
      rw [feed] at done
      split at done <;> cases done
  | cons byte bytes ih =>
      rw [feed] at done
      split at done
      · exact Nat.lt_succ_of_lt (ih done)
      · cases done
        exact Nat.lt_succ_self _
      · cases done
      · cases done

end Scanner

end HttpRelay
