import HttpRelay.Proofs.Relay.PassTracking
import HttpRelay.Relay.Exchange

/-!
# What ends a wait

A pass that waits is given up when shutdown comes, and while it receives its header also when the
receive timeout is over. What is waited for is seen if it comes in time (`Pass.IsInTime`): not
after the timeout, and before shutdown. If it is late, or never comes, the wait ends with shutdown
or the timeout, whichever is first (`Pass.lapse`), and this does not depend on how long it would
have lasted (`Pass.alarm_of_late`).
-/

namespace HttpRelay

namespace Pass

variable {limits : Limits} {flow : Flow Pass} {shutdown arrival : Option Nat}
  {deadline now time : Nat} {abandoned : Abandoned} {receiver : Receiver} {header : Header}
  {body : Body} {sink : Sink}

/-- Only shutdown and the end of the receive timeout end a wait. -/
theorem interrupted_or_expired_of_alarm
    (rang : alarm shutdown limits deadline flow now arrival = some (time, abandoned)) :
    abandon flow .interrupted = abandoned ∨ expired limits flow = some abandoned := by
  cases interrupted : interruption shutdown arrival with
  | none =>
      cases due : expiry deadline now arrival <;> cases expired : expired limits flow <;>
        simp [alarm, interrupted, due, expired] at rang
      exact Or.inr (congrArg some rang.2)
  | some first =>
      cases due : expiry deadline now arrival with
      | none =>
          simp only [alarm, interrupted, due, Option.map_some, Option.bind_eq_bind,
            Option.bind_none, Option.some.injEq, Prod.mk.injEq] at rang
          exact Or.inl rang.2
      | some second =>
          cases expired : expired limits flow with
          | none =>
              simp only [alarm, interrupted, due, expired, Option.map_some, Option.bind_eq_bind,
                Option.bind_some, Option.bind_none, Option.some.injEq, Prod.mk.injEq] at rang
              exact Or.inl rang.2
          | some last =>
              simp only [alarm, interrupted, due, expired, Option.map_some, Option.bind_eq_bind,
                Option.bind_some, Option.pure_def] at rang
              split at rang
              · cases rang
                exact Or.inl rfl
              · cases rang
                exact Or.inr rfl

theorem isAt_of_expired (expired : expired limits flow = some abandoned) :
    abandoned.IsAt flow := by
  simp only [Pass.expired] at expired
  split at expired
  · cases expired
    exact isAt_abandon_timeout _ _
  · cases expired

theorem isAt_of_alarm
    (rang : alarm shutdown limits deadline flow now arrival = some (time, abandoned)) :
    abandoned.IsAt flow := by
  rcases interrupted_or_expired_of_alarm rang with rfl | expired
  · exact isAt_abandon_interrupted _
  · exact isAt_of_expired expired

/-- What happens at the given time is still seen by a pass that receives a header: it is not
after the deadline, and before shutdown. -/
def IsInTime (shutdown : Option Nat) (deadline time : Nat) : Prop :=
  time ≤ deadline ∧ ∀ interruption ∈ shutdown, time < interruption

instance (shutdown : Option Nat) (deadline time : Nat) :
    Decidable (IsInTime shutdown deadline time) :=
  inferInstanceAs (Decidable (_ ∧ _))

theorem IsInTime.of_le {earlier later : Nat} (isInTime : IsInTime shutdown deadline later)
    (isEarlier : earlier ≤ later) : IsInTime shutdown deadline earlier := by
  rcases isInTime with ⟨inTime, running⟩
  refine ⟨isEarlier.trans inTime, ?_⟩
  intro interruption announced
  exact isEarlier.trans_lt (running interruption announced)

theorem expiry_eq_none_iff {arrival : Nat} (isLater : now < arrival) :
    expiry deadline now (some arrival) = none ↔ arrival ≤ deadline := by
  simp only [expiry, Option.all_some, decide_eq_true_eq]
  split
  · simp only [reduceCtorEq, false_iff]
    omega
  · split
    · simp only [reduceCtorEq, false_iff]
      omega
    · simp only [true_iff]
      omega

theorem interruption_eq_none_iff {arrival : Nat} :
    interruption shutdown (some arrival) = none ↔
      ∀ interruption ∈ shutdown, arrival < interruption := by
  simp [interruption, Option.filter_eq_none_iff]

/-- While a header is received, a wait goes on exactly if what it waits for comes in time. -/
theorem alarm_receiving_eq_none_iff {receiver : Receiver} {arrival : Nat}
    (isLater : now < arrival) :
    alarm shutdown limits deadline ⟨.receiving receiver, sink⟩ now (some arrival) = none ↔
      IsInTime shutdown deadline arrival := by
  rw [IsInTime, ← expiry_eq_none_iff isLater, ← interruption_eq_none_iff]
  simp only [alarm, expired]
  cases interruption shutdown (some arrival) with
  | none => cases expiry deadline now (some arrival) <;> simp
  | some time =>
      cases expiry deadline now (some arrival) with
      | none => simp
      | some due =>
          simp only [Option.map_some, Option.bind_eq_bind, Option.bind_some, Option.pure_def]
          split <;> simp

theorem alarm_relaying (arrival : Option Nat) :
    alarm shutdown limits deadline ⟨.relaying header body, sink⟩ now arrival =
      (interruption shutdown arrival).map fun time =>
        (time, abandon ⟨.relaying header body, sink⟩ .interrupted) := by
  simp only [alarm, expired]
  cases interruption shutdown arrival <;> cases expiry deadline now arrival <;> rfl

theorem interruption_eq_some {time : Nat} {arrival : Option Nat} (announced : time ∈ shutdown)
    (isFirst : ∀ later ∈ arrival, time ≤ later) : interruption shutdown arrival = some time := by
  cases announced
  apply Option.filter_eq_some_iff.mpr
  refine ⟨rfl, ?_⟩
  cases arrival with
  | none => rfl
  | some later => exact decide_eq_true (isFirst later rfl)

theorem alarm_of_interrupted {time : Nat} {arrival : Option Nat} (announced : time ∈ shutdown)
    (isLater : now < time) (notAfter : time ≤ deadline)
    (isFirst : ∀ later ∈ arrival, time ≤ later) :
    alarm shutdown limits deadline flow now arrival =
      some (time, abandon flow .interrupted) := by
  have expiresLater : ∀ due ∈ expiry deadline now arrival, time ≤ due := by
    intro due expires
    simp only [expiry, if_neg (show ¬deadline ≤ now by omega), Option.mem_def,
      Option.ite_none_right_eq_some, Option.some.injEq] at expires
    omega
  simp only [alarm, interruption_eq_some announced isFirst, Option.map_some]
  cases expires : expiry deadline now arrival with
  | none => rfl
  | some due =>
      cases expired limits flow with
      | none => rfl
      | some abandoned => exact if_pos (expiresLater due expires)

theorem alarm_of_expired {arrival : Option Nat} (inTime : now ≤ deadline)
    (isFirst : ∀ later ∈ arrival, deadline < later) (running : ∀ time ∈ shutdown, deadline < time) :
    alarm shutdown limits deadline ⟨.receiving receiver, sink⟩ now arrival =
      some (deadline, abandon ⟨.receiving receiver, sink⟩
        (.timeout (.ofMilliseconds limits.receiveTimeout))) := by
  have expires : expiry deadline now arrival = some deadline := by
    simp only [expiry]
    split
    · exact congrArg some (by omega)
    · apply if_pos
      cases arrival with
      | none => rfl
      | some later => exact decide_eq_true (isFirst later rfl)
  simp only [alarm, expired, expires]
  cases interrupted : interruption shutdown arrival with
  | none => rfl
  | some time =>
      have announced : time ∈ shutdown := (Option.filter_eq_some_iff.mp interrupted).1
      have isAfter := running time announced
      simp only [Option.map_some, Option.bind_eq_bind, Option.bind_some, Option.pure_def]
      exact if_neg (by omega)

/-- How a pass ends whose header does not come in time, and when: with shutdown, unless the receive
timeout is over before. -/
def lapse (limits : Limits) (shutdown : Option Nat) : Nat × Failure :=
  match shutdown.filter (· ≤ limits.receiveTimeout) with
  | some time => (time, .interrupted)
  | none => (limits.receiveTimeout, .timeout (.ofMilliseconds limits.receiveTimeout))

theorem lapse_of_announced (announced : time ∈ shutdown) (notAfter : time ≤ limits.receiveTimeout) :
    lapse limits shutdown = (time, .interrupted) := by
  have isFirst : shutdown.filter (· ≤ limits.receiveTimeout) = some time :=
    Option.filter_eq_some_iff.mpr ⟨announced, decide_eq_true notAfter⟩
  rw [lapse, isFirst]

theorem lapse_of_running (running : ∀ time ∈ shutdown, limits.receiveTimeout < time) :
    lapse limits shutdown =
      (limits.receiveTimeout, .timeout (.ofMilliseconds limits.receiveTimeout)) := by
  have isLast : shutdown.filter (· ≤ limits.receiveTimeout) = none := by
    apply Option.filter_eq_none_iff.mpr
    intro time announced
    have isAfter := running time announced
    simp only [decide_eq_true_eq]
    omega
  rw [lapse, isLast]

/-- While a header is received, a wait for what comes too late, or never, ends in one way. -/
theorem alarm_of_late (inTime : IsInTime shutdown limits.receiveTimeout now)
    (isLate : ∀ later ∈ arrival, ¬IsInTime shutdown limits.receiveTimeout later)
    (receiver : Receiver) (sink : Sink) :
    alarm shutdown limits limits.receiveTimeout ⟨.receiving receiver, sink⟩ now arrival =
      some ((lapse limits shutdown).1,
        abandon ⟨.receiving receiver, sink⟩ (lapse limits shutdown).2) := by
  by_cases isAnnounced : ∃ time ∈ shutdown, time ≤ limits.receiveTimeout
  · rcases isAnnounced with ⟨time, announced, notAfter⟩
    rw [lapse_of_announced announced notAfter]
    apply alarm_of_interrupted announced (inTime.2 time announced) notAfter
    intro later isNext
    by_contra isBefore
    apply isLate later isNext
    refine ⟨by omega, ?_⟩
    intro other isOther
    cases announced.symm.trans isOther
    omega
  · have running : ∀ time ∈ shutdown, limits.receiveTimeout < time := by
      intro time announced
      by_contra notBefore
      exact isAnnounced ⟨time, announced, Nat.le_of_not_lt notBefore⟩
    rw [lapse_of_running running]
    apply alarm_of_expired inTime.1 _ running
    intro later isNext
    by_contra notAfter
    apply isLate later isNext
    refine ⟨by omega, ?_⟩
    intro time announced
    have isAfter := running time announced
    omega

end Pass

end HttpRelay
