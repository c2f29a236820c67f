import HttpRelay.Proofs.Relay.PassTracking

/-!
# Messages in succession

The messages that a stream holds one after another, and the bytes behind them. A stream
determines its messages: any two lists of them agree as far as they go. More bytes at the end
of a stream change nothing about the messages that are whole already, nor about a part of the
next one.
-/

namespace HttpRelay

namespace Message

/-- A stream that consists of whole messages and what comes behind them. -/
inductive Successive (kind : Kind) (limits : Limits) : Bytes → List Message → Bytes → Prop where
  | none (stream : Bytes) : Successive kind limits stream [] stream
  | next {stream rest behind : Bytes} {message : Message} {messages : List Message}
      (isFirst : IsFirst kind limits message stream rest)
      (others : Successive kind limits rest messages behind) :
      Successive kind limits stream (message :: messages) behind

/-- A part, counted from the front, of the forwarded form of the message that a stream begins
with. -/
def IsPart (kind : Kind) (limits : Limits) (stream written : Bytes) : Prop :=
  written = [] ∨
    ∃ message rest, Begins kind limits message stream rest ∧ written <+: message.forwarded

variable {kind : Kind} {limits : Limits} {stream rest otherRest : Bytes}
  {messages others : List Message} {message : Message}

namespace Successive

theorem append (successive : Successive kind limits stream messages rest) (more : Bytes) :
    Successive kind limits (stream ++ more) messages (rest ++ more) := by
  induction successive with
  | none stream => exact .none _
  | next isFirst _ ih => exact .next (isFirst.append more) ih

theorem concat (successive : Successive kind limits stream messages rest)
    (isFirst : IsFirst kind limits message rest otherRest) :
    Successive kind limits stream (messages ++ [message]) otherRest := by
  induction successive with
  | none stream => exact .next isFirst (.none _)
  | next firstOfAll _ ih => exact .next firstOfAll (ih isFirst)

theorem split_last {count : Nat} (successive : Successive kind limits stream messages rest)
    (number : messages.length = count + 1) :
    ∃ earlier message between, messages = earlier ++ [message] ∧ earlier.length = count ∧
      Successive kind limits stream earlier between ∧
      IsFirst kind limits message between rest := by
  induction successive generalizing count with
  | none stream => cases number
  | @next stream between rest message messages isFirst successive ih =>
      cases successive with
      | none =>
          cases number
          exact ⟨[], message, stream, rfl, rfl, .none _, isFirst⟩
      | @next _ _ _ second others secondFirst successive =>
          cases count with
          | zero => cases number
          | succ count =>
              rcases ih (Nat.succ.inj number) with
                ⟨earlier, last, behind, messagesEq, earlierNumber, earlierSuccessive, lastFirst⟩
              refine ⟨message :: earlier, last, behind, ?_, ?_, .next isFirst earlierSuccessive,
                lastFirst⟩
              · simp only [messagesEq, List.cons_append]
              · simp only [List.length_cons, earlierNumber]

/-- The messages of a stream are determined by their number. -/
theorem unique (successive : Successive kind limits stream messages rest)
    (other : Successive kind limits stream others otherRest)
    (sameNumber : messages.length = others.length) : messages = others ∧ rest = otherRest := by
  induction successive generalizing others with
  | none stream =>
      cases other with
      | none => exact ⟨rfl, rfl⟩
      | next isFirst others => cases sameNumber
  | next isFirst successive ih =>
      cases other with
      | none => cases sameNumber
      | next otherFirst others =>
          rcases isFirst.unique otherFirst with ⟨rfl, rfl⟩
          rcases ih others (Nat.succ.inj sameNumber) with ⟨rfl, rfl⟩
          exact ⟨rfl, rfl⟩

end Successive

theorem IsPart.append {written : Bytes} (isPart : IsPart kind limits stream written)
    (more : Bytes) : IsPart kind limits (stream ++ more) written := by
  rcases isPart with rfl | ⟨message, rest, begins, isPrefix⟩
  · exact Or.inl rfl
  · exact Or.inr ⟨message, rest ++ more, begins.append more, isPrefix⟩

/-- A part of what is next is a part of the next message, once that has come whole. -/
theorem IsPart.prefix_forwarded {written : Bytes} (isPart : IsPart kind limits stream written)
    (isFirst : IsFirst kind limits message stream rest) : written <+: message.forwarded := by
  rcases isPart with rfl | ⟨other, otherRest, begins, isPrefix⟩
  · exact List.nil_prefix
  · rcases begins.body_prefix isFirst with ⟨headers, bodies⟩
    apply isPrefix.trans
    simp only [Message.forwarded, headers]
    exact (List.prefix_append_right_inj _).mpr bodies

theorem IsFirst.isPart (isFirst : IsFirst kind limits message stream rest) :
    IsPart kind limits stream message.forwarded :=
  Or.inr ⟨message, rest, isFirst.toBegins, List.prefix_rfl⟩

end Message

namespace Pass

variable {kind : Kind} {limits : Limits} {origin : Sink} {taken : Bytes}

theorem Leaves.isPart {abandoned : Abandoned} (leaves : Leaves kind limits origin taken abandoned)
    (more : Bytes) :
    ∃ written, abandoned.sink.output = origin.output ++ written ∧
      Message.IsPart kind limits (taken ++ more) written := by
  rcases abandoned with ⟨failure, hadStarted, accepted, sink⟩
  cases accepted with
  | none =>
      refine ⟨[], ?_, Or.inl rfl⟩
      rw [List.append_nil, leaves.1]
  | some header =>
      rcases leaves with ⟨body, begins, grows, isPrefix⟩
      rcases grows.output with ⟨written, output⟩
      rw [← output, List.prefix_append_right_inj] at isPrefix
      exact ⟨written, output.symm, Or.inr ⟨_, _, begins.append more, isPrefix⟩⟩

/-- What a pass that is under way wrote is a part of the message it is about. -/
theorem Tracks.isPart {flow : Flow Pass} (tracks : Tracks kind limits origin taken flow)
    (more : Bytes) :
    ∃ written, flow.sink.output = origin.output ++ written ∧
      Message.IsPart kind limits (taken ++ more) written :=
  Leaves.isPart (tracks.leaves (isAt_abandon_interrupted flow)) more

/-- A peer that goes away changes nothing about the bytes that it got. -/
theorem Tracks.hangUp {flow : Flow Pass} (tracks : Tracks kind limits origin taken flow) :
    Tracks kind limits origin.hangUp taken ⟨flow.progress, flow.sink.hangUp⟩ := by
  rcases flow with ⟨receiver | ⟨header, body⟩, sink⟩
  · rcases tracks with ⟨rfl, scanned⟩
    exact ⟨rfl, scanned⟩
  · rcases tracks with ⟨block, fields, relayed, begun, rfl, accepts, grows, output, tracks⟩
    refine ⟨block, fields, relayed, begun.hangUp, rfl, accepts, grows.hangUp, output, ?_⟩
    exact { tracks with grows := tracks.grows.hangUp }

end Pass

end HttpRelay
