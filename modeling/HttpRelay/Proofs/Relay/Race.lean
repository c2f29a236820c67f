import HttpRelay.Proofs.Relay.Delivery
import HttpRelay.Proofs.Relay.Waits
import HttpRelay.Proofs.Stream.Calling
import HttpRelay.Proofs.Stream.Likeness

/-!
# What ends a pass first

Three things can end a pass while it receives a header: the header itself, the receive timeout,
and shutdown. Whichever comes first decides (`Pass.reception`), and all three count from the start
of the pass, so no byte that trickles in moves the deadline. Behind an accepted header the deadline
has no say any more, and the pass ends as it would by itself, unless shutdown comes before that
(`Pass.IsLeftAlone`).

What each contender would come to is told by runs that nothing disturbs: the receiver alone for
the header, the pass alone for the whole message. So a header is accepted exactly if the receiver
alone comes to it, and does so in time (`hasHeader_exchangePass`).
-/

namespace HttpRelay

universe u v w

variable {State : Type u} {Value : Type v} {Error : Type w}

/-- The time at which a run ended, if it did not wait for ever. -/
def Run.end? (run : Run State Value Error) : Option Nat :=
  match run.outcome with
  | .done _ | .failed _ => some run.time
  | .waiting _ => none

/-- An alarm that never rings. -/
def Alarm.silent : Alarm State Error :=
  fun _ _ _ => none

theorem Run.time_eq_of_end {run : Run State Value Error} {time : Nat}
    (ends : run.end? = some time) : run.time = time := by
  simp only [end?] at ends
  split at ends
  · exact Option.some.inj ends
  · exact Option.some.inj ends
  · cases ends

theorem Run.exists_waiting_of_endless {run : Run State Value Error} (endless : run.end? = none) :
    ∃ state, run.outcome = .waiting state := by
  simp only [end?] at endless
  split at endless
  · cases endless
  · cases endless
  · rename_i state waiting
    exact ⟨state, waiting⟩

/-- A run does not end before it began. -/
theorem Scanner.le_time_run (scanner : Scanner State Value Error) (ending : Source.Ending)
    (now : Nat) (state : State) (items : List Source.Item) :
    now ≤ (scanner.run Alarm.silent ending now state items).time := by
  induction items generalizing now state with
  | nil =>
      cases ending with
      | finished => exact Nat.le_refl now
      | broken kind => exact Nat.le_refl now
      | stalled =>
          simp only [run, Alarm.silent]
          split <;> exact Nat.le_refl now
  | cons item items ih =>
      cases item with
      | segment bytes =>
          simp only [run]
          split
          · exact ih now _
          · exact Nat.le_refl now
          · exact Nat.le_refl now
      | delay milliseconds =>
          cases milliseconds with
          | zero => exact ih now state
          | succ milliseconds =>
              simp only [run, Alarm.silent]
              split
              · exact Nat.le_refl now
              · exact (Nat.le_add_right now _).trans (ih _ state)

namespace Pass

variable {limits : Limits} {shutdown : Option Nat} {deadline now : Nat} {flow next : Flow Pass}
  {receiver : Receiver} {header : Header} {body : Body} {sink : Sink} {bytes : Bytes}
  {ending : Source.Ending} {items : List Source.Item}
  {parse : Run Receiver Header HeaderError} {relay run : Run (Flow Pass) Delivered Abandoned}

/-- A run that was given up at a time, over a failure. -/
structure GivesUpAt (run : Run (Flow Pass) Delivered Abandoned) (time : Nat)
    (failure : Failure) : Prop where
  time : run.time = time
  failed : ∃ abandoned, run.outcome = .failed abandoned ∧ abandoned.failure = failure

/-- A run under shutdown of what would come to an end by itself in the given way. -/
structure IsLeftAlone (shutdown : Option Nat)
    (relay run : Run (Flow Pass) Delivered Abandoned) : Prop where
  interrupted : ∀ time ∈ shutdown, (∀ last ∈ relay.end?, time ≤ last) →
    GivesUpAt run time .interrupted
  undisturbed : (∀ time ∈ shutdown, ∃ last ∈ relay.end?, last < time) → run = relay

/-- A failure that can end a pass behind its header. -/
inductive EndsRelay (shutdown : Option Nat) : Failure → Prop where
  | relay (error : BodyError) : EndsRelay shutdown (.relay error)
  | interrupted {time : Nat} (announced : time ∈ shutdown) : EndsRelay shutdown .interrupted

/-- A pass that was left under its header. -/
structure IsLeft (shutdown : Option Nat) (header : Header) (abandoned : Abandoned) : Prop where
  accepted : abandoned.accepted = some header
  cause : EndsRelay shutdown abandoned.failure

/-- What comes of the reception of a header that the receiver alone would end in the given way: the
header, or a failure and its time. -/
def reception (limits : Limits) (shutdown : Option Nat) (parse : Run Receiver Header HeaderError) :
    Except (Nat × Failure) Header :=
  if IsInTime shutdown limits.receiveTimeout parse.time then
    match parse.outcome with
    | .done header => .ok header
    | .failed error => .error (parse.time, .header error)
    | .waiting _ => .error (lapse limits shutdown)
  else .error (lapse limits shutdown)

/-- A run under a header that was accepted, beside the run that nothing disturbs. -/
structure IsUnder (limits : Limits) (shutdown : Option Nat)
    (parse : Run Receiver Header HeaderError) (relay : Run (Flow Pass) Delivered Abandoned)
    (header : Header) (run : Run (Flow Pass) Delivered Abandoned) : Prop where
  accepted : reception limits shutdown parse = .ok header
  isLater : parse.time ≤ relay.time
  leftAlone : IsLeftAlone shutdown relay run
  outcome : run.outcome.Holds (·.progress.header? = some header) (·.header = header)
    (IsLeft shutdown header)

/-- A run of a pass is given up without a header, or goes on under one. -/
inductive IsDecided (limits : Limits) (shutdown : Option Nat) (sink : Sink)
    (parse : Run Receiver Header HeaderError) (relay : Run (Flow Pass) Delivered Abandoned) :
    Run (Flow Pass) Delivered Abandoned → Prop where
  | refused {time : Nat} {failure : Failure} (hadStarted : Bool) (items : List Source.Item)
      (cause : reception limits shutdown parse = .error (time, failure)) :
      IsDecided limits shutdown sink parse relay
        ⟨time, .failed ⟨failure, hadStarted, none, sink⟩, items⟩
  | accepted {header : Header} {run : Run (Flow Pass) Delivered Abandoned}
      (under : IsUnder limits shutdown parse relay header run) :
      IsDecided limits shutdown sink parse relay run

section UnderHeader

theorem holds_ofBodyStep (shutdown : Option Nat) (header : Header) (step : Body.Step) :
    (ofBodyStep header step).Holds (·.progress.header? = some header) (·.header = header)
      (IsLeft shutdown header) := by
  cases step with
  | more flow | done relayed => rfl
  | failed broken | refused broken => exact ⟨rfl, .relay broken.error⟩

/-- A pass keeps its header, and only its relay can fail under it. -/
theorem keeps_header (shutdown : Option Nat) (header : Header) :
    scanner.Keeps (·.progress.header? = some header) (·.header = header)
      (IsLeft shutdown header) where
  accept := by
    rintro ⟨receiver | ⟨accepted, body⟩, sink⟩ byte ⟨⟩
    exact holds_ofBodyStep shutdown _ _
  atSegmentEnd := by
    rintro ⟨receiver | ⟨accepted, body⟩, sink⟩ abandoned ⟨⟩ ended
    rcases Option.map_eq_some_iff.mp ended with ⟨broken, _, rfl⟩
    exact ⟨rfl, .relay broken.error⟩
  atWait := by
    rintro ⟨receiver | ⟨accepted, body⟩, sink⟩ abandoned ⟨⟩ waited
    rcases Option.map_eq_some_iff.mp waited with ⟨broken, _, rfl⟩
    exact ⟨rfl, .relay broken.error⟩
  atCut := by
    rintro ⟨receiver | ⟨accepted, body⟩, sink⟩ cut ⟨⟩
    exact ⟨rfl, .relay _⟩

theorem holds_forward (shutdown : Option Nat) (header : Header) (sink : Sink) :
    (forward header sink).Holds (·.progress.header? = some header) (·.header = header)
      (IsLeft shutdown header) := by
  cases wrote : sink.write header.encode with
  | mk written fault =>
      cases fault with
      | none =>
          rw [forward_of_written wrote]
          exact holds_ofBodyStep shutdown header _
      | some fault =>
          rw [forward_of_fault wrote]
          exact ⟨rfl, .relay _⟩

theorem isLeft_of_alarm {time : Nat} {arrival : Option Nat} {abandoned : Abandoned}
    (under : flow.progress.header? = some header)
    (rang : alarm shutdown limits deadline flow now arrival = some (time, abandoned)) :
    IsLeft shutdown header abandoned := by
  rcases flow with ⟨receiver | ⟨accepted, body⟩, sink⟩
  · cases under
  · cases under
    rw [alarm_relaying] at rang
    rcases Option.map_eq_some_iff.mp rang with ⟨announced, interrupts, ends⟩
    cases ends
    exact ⟨rfl, .interrupted (Option.filter_eq_some_iff.mp interrupts).1⟩

theorem holds_run (under : flow.progress.header? = some header) :
    (scanner.run (alarm shutdown limits deadline) ending now flow items).outcome.Holds
      (·.progress.header? = some header) (·.header = header) (IsLeft shutdown header) :=
  (keeps_header shutdown header).run isLeft_of_alarm ending now items under

end UnderHeader

section LeftAlone

theorem IsLeftAlone.of_ended (running : ∀ time ∈ shutdown, now < time)
    (ends : relay.end? = some now) : IsLeftAlone shutdown relay relay where
  interrupted time announced isFirst := by
    have notLater := isFirst now ends
    exact absurd (running time announced) (Nat.not_lt_of_le notLater)
  undisturbed _ := rfl

/-- Shutdown that comes before anything else does. -/
theorem IsLeftAlone.of_interrupted {time : Nat} (announced : shutdown = some time)
    (gaveUp : GivesUpAt run time .interrupted) (isFirst : ∀ last ∈ relay.end?, time ≤ last) :
    IsLeftAlone shutdown relay run where
  interrupted other isOther _ := by
    cases announced.symm.trans isOther
    exact gaveUp
  undisturbed undisturbed := by
    rcases undisturbed time announced with ⟨last, ends, isBefore⟩
    exact absurd isBefore (Nat.not_lt_of_le (isFirst last ends))

theorem isLeftAlone_run (under : flow.progress.header? = some header)
    (running : ∀ time ∈ shutdown, now < time) :
    IsLeftAlone shutdown (scanner.run Alarm.silent ending now flow items)
      (scanner.run (alarm shutdown limits deadline) ending now flow items) := by
  induction items generalizing now flow with
  | nil =>
      cases ending with
      | finished => exact .of_ended running rfl
      | broken kind => exact .of_ended running rfl
      | stalled =>
          rcases flow with ⟨receiver | ⟨accepted, body⟩, sink⟩
          · cases under
          simp only [Scanner.run, Alarm.silent, alarm_relaying]
          cases waited : scanner.atWait ⟨.relaying accepted body, sink⟩ with
          | some abandoned => exact .of_ended running rfl
          | none =>
              cases shutdown with
              | none =>
                  refine ⟨?_, fun _ => rfl⟩
                  intro time announced
                  cases announced
              | some time =>
                  refine .of_interrupted rfl ⟨rfl, _, rfl, rfl⟩ ?_
                  intro last ends
                  cases ends
  | cons item items ih =>
      cases item with
      | segment bytes =>
          have held := (keeps_header shutdown header).feed under bytes
          simp only [Scanner.run]
          cases fed : scanner.feed flow bytes with
          | more next =>
              rw [fed] at held
              exact ih held running
          | done delivered rest => exact .of_ended running rfl
          | failed abandoned rest => exact .of_ended running rfl
      | delay milliseconds =>
          cases milliseconds with
          | zero => exact ih under running
          | succ milliseconds =>
              simp only [Scanner.run]
              cases waited : scanner.atWait flow with
              | some abandoned => exact .of_ended running rfl
              | none =>
                  have notBefore := scanner.le_time_run ending (now + (milliseconds + 1)) flow
                    items
                  rcases flow with ⟨receiver | ⟨accepted, body⟩, sink⟩
                  · cases under
                  simp only [Alarm.silent, alarm_relaying]
                  cases interrupts : interruption shutdown (some (now + (milliseconds + 1))) with
                  | none => exact ih under (interruption_eq_none_iff.mp interrupts)
                  | some time =>
                      rcases Option.filter_eq_some_iff.mp interrupts with ⟨announced, isFirst⟩
                      apply IsLeftAlone.of_interrupted announced ⟨rfl, _, rfl, rfl⟩
                      intro last ends
                      have isFirst := of_decide_eq_true isFirst
                      have lastEq := Run.time_eq_of_end ends
                      rw [lastEq] at notBefore
                      exact isFirst.trans notBefore

namespace IsLeftAlone

variable {last : Nat}

theorem eq_relay (leftAlone : IsLeftAlone shutdown relay run) (ends : last ∈ relay.end?)
    (notAfter : ∀ time ∈ shutdown, last ≤ time) (unannounced : last ∉ shutdown) :
    run = relay := by
  apply leftAlone.undisturbed
  intro time announced
  refine ⟨last, ends, lt_of_le_of_ne (notAfter time announced) ?_⟩
  rintro rfl
  exact unannounced announced

theorem time_eq (leftAlone : IsLeftAlone shutdown relay run) (ends : last ∈ relay.end?)
    (notAfter : ∀ time ∈ shutdown, last ≤ time) : run.time = last := by
  have relayTime : relay.time = last := Run.time_eq_of_end ends
  by_cases announced : last ∈ shutdown
  · have interrupted := leftAlone.interrupted last announced ?_
    · exact interrupted.time
    · intro other otherEnds
      exact le_of_eq (relayTime.symm.trans (Run.time_eq_of_end otherEnds))
  · rw [leftAlone.eq_relay ends notAfter announced, relayTime]

end IsLeftAlone

end LeftAlone

section Reception

theorem reception_eq_ok_iff :
    reception limits shutdown parse = .ok header ↔
      parse.outcome = .done header ∧ IsInTime shutdown limits.receiveTimeout parse.time := by
  by_cases inTime : IsInTime shutdown limits.receiveTimeout parse.time
  · rw [reception, if_pos inTime]
    cases parse.outcome <;> simp [inTime]
  · rw [reception, if_neg inTime]
    simp [inTime]

theorem reception_of_failed {error : HeaderError} (failed : parse.outcome = .failed error)
    (inTime : IsInTime shutdown limits.receiveTimeout parse.time) :
    reception limits shutdown parse = .error (parse.time, .header error) := by
  rw [reception, if_pos inTime, failed]

theorem reception_of_late
    (isLate : ∀ last ∈ parse.end?, ¬IsInTime shutdown limits.receiveTimeout last) :
    reception limits shutdown parse = .error (lapse limits shutdown) := by
  rw [reception]
  split
  · rename_i inTime
    cases outcome : parse.outcome with
    | waiting receiver => rfl
    | done header => exact absurd inTime (isLate parse.time (by simp [Run.end?, outcome]))
    | failed error => exact absurd inTime (isLate parse.time (by simp [Run.end?, outcome]))
  · rfl

/-- Without a header nothing is relayed that could fail. -/
theorem ne_relay_of_reception {time : Nat} {failure : Failure}
    (refused : reception limits shutdown parse = .error (time, failure)) (error : BodyError) :
    failure ≠ .relay error := by
  rintro rfl
  have lapsed : ∀ {time}, lapse limits shutdown ≠ (time, .relay error) := by
    intro time
    rw [lapse]
    split <;> simp
  rw [reception] at refused
  split at refused
  · split at refused
    · cases refused
    · cases refused
    · exact lapsed (Except.error.inj refused)
  · exact lapsed (Except.error.inj refused)

/-- A segment means for a pass what it means for its receiver, up to the header. -/
theorem feed_receiving (receiver : Receiver) (sink : Sink) (bytes : Bytes) :
    match Receiver.scanner.feed receiver bytes with
    | .more next => scanner.feed ⟨.receiving receiver, sink⟩ bytes = .more ⟨.receiving next, sink⟩
    | .done header rest =>
        scanner.feed ⟨.receiving receiver, sink⟩ bytes =
          scanner.feedFrom rest (forward header sink)
    | .failed error rest => ∃ hadStarted, scanner.feed ⟨.receiving receiver, sink⟩ bytes =
        .failed (ofHeaderError hadStarted sink error) rest := by
  have scanned := scan_receiving receiver sink bytes
  cases fed : Receiver.scanner.feed receiver bytes with
  | more next =>
      rcases Scanner.feed_eq_more_iff.mp fed with ⟨received, nothingDue⟩
      simp only [received] at scanned
      exact Scanner.feed_eq_more_iff.mpr ⟨scanned, Option.map_eq_none_iff.mpr nothingDue⟩
  | done header rest =>
      simp only [Scanner.feed_eq_done_iff.mp fed] at scanned
      simp only [Scanner.feed_eq_endSegment_scan, scanned, Scanner.endSegment_resume]
  | failed error rest =>
      rcases Scanner.feed_eq_failed_iff.mp fed with received | ⟨last, received, due, rfl⟩
      · simp only [received] at scanned
        rcases scanned with ⟨hadStarted, scanned⟩
        exact ⟨hadStarted, Scanner.feed_eq_failed_iff.mpr (Or.inl scanned)⟩
      · simp only [received] at scanned
        refine ⟨last.hasStarted, Scanner.feed_eq_failed_iff.mpr (Or.inr ⟨_, scanned, ?_, rfl⟩)⟩
        exact Option.map_eq_some_iff.mpr ⟨error, due, rfl⟩

/-- A segment that brings the end of the header, with the run over what is behind it. -/
theorem isUnder_run_segment {rest : Bytes}
    (accepted : reception limits shutdown parse = .ok header) (parseTime : parse.time = now)
    (running : ∀ time ∈ shutdown, now < time)
    (fed : scanner.feed flow bytes = scanner.feedFrom rest (forward header sink)) :
    IsUnder limits shutdown parse
      (scanner.run Alarm.silent ending now flow (.segment bytes :: items)) header
      (scanner.run (alarm shutdown limits deadline) ending now flow (.segment bytes :: items)) := by
  have held : (scanner.feed flow bytes).Holds (·.progress.header? = some header)
      (·.header = header) (IsLeft shutdown header) := by
    have forwarded := holds_forward shutdown header sink
    rw [fed]
    cases verdict : forward header sink with
    | more next =>
        rw [verdict] at forwarded
        exact (keeps_header shutdown header).feed forwarded rest
    | done delivered | failed abandoned | refused abandoned =>
        rw [verdict] at forwarded
        exact forwarded
  refine ⟨accepted, ?_, ?_, Scanner.run_segment_holds held fun _ => holds_run⟩
  · rw [parseTime]
    exact scanner.le_time_run ending now flow (.segment bytes :: items)
  · simp only [Scanner.run]
    cases scan : scanner.feed flow bytes with
    | more next =>
        rw [scan] at held
        exact isLeftAlone_run held running
    | done delivered left => exact .of_ended running rfl
    | failed abandoned left => exact .of_ended running rfl

/-- A pass that receives its header and is still in time. The receiver reads the same items
beside it, with nothing that ends its waits. -/
theorem isDecided_run (inTime : IsInTime shutdown limits.receiveTimeout now) :
    IsDecided limits shutdown sink (Receiver.scanner.run Alarm.silent ending now receiver items)
      (scanner.run Alarm.silent ending now ⟨.receiving receiver, sink⟩ items)
      (scanner.run (alarm shutdown limits limits.receiveTimeout) ending now
        ⟨.receiving receiver, sink⟩ items) := by
  induction items generalizing now receiver with
  | nil =>
      cases ending with
      | finished => exact .refused receiver.hasStarted [] (reception_of_failed rfl inTime)
      | broken kind => exact .refused receiver.hasStarted [] (reception_of_failed rfl inTime)
      | stalled =>
          have waits : scanner.atWait ⟨.receiving receiver, sink⟩ = none := rfl
          have isLate : ∀ later ∈ none, ¬IsInTime shutdown limits.receiveTimeout later := by
            intro later comes
            cases comes
          simp only [Scanner.run, waits, alarm_of_late inTime isLate]
          exact .refused receiver.hasStarted [] (reception_of_late isLate)
  | cons item items ih =>
      cases item with
      | segment bytes =>
          have passFed := feed_receiving receiver sink bytes
          cases fed : Receiver.scanner.feed receiver bytes with
          | more next =>
              simp only [fed] at passFed
              simp only [Scanner.run, fed, passFed]
              exact ih inTime
          | failed error rest =>
              simp only [fed] at passFed
              rcases passFed with ⟨hadStarted, passFed⟩
              simp only [Scanner.run, fed, passFed]
              exact .refused hadStarted _ (reception_of_failed rfl inTime)
          | done header rest =>
              simp only [fed] at passFed
              have parsed : Receiver.scanner.run Alarm.silent ending now receiver
                  (.segment bytes :: items) = ⟨now, .done header, .segment rest :: items⟩ := by
                simp only [Scanner.run, fed]
              rw [parsed]
              apply IsDecided.accepted
              apply isUnder_run_segment _ rfl inTime.2 passFed
              exact reception_eq_ok_iff.mpr ⟨rfl, inTime⟩
      | delay milliseconds =>
          cases milliseconds with
          | zero => exact ih inTime
          | succ milliseconds =>
              have isLater : now < now + (milliseconds + 1) := by omega
              have waits : scanner.atWait ⟨.receiving receiver, sink⟩ = none := rfl
              have receiverWaits : Receiver.scanner.atWait receiver = none := rfl
              by_cases laterInTime :
                  IsInTime shutdown limits.receiveTimeout (now + (milliseconds + 1))
              · have silent : alarm shutdown limits limits.receiveTimeout
                    ⟨.receiving receiver, sink⟩ now (some (now + (milliseconds + 1))) = none :=
                  (alarm_receiving_eq_none_iff isLater).mpr laterInTime
                simp only [Scanner.run, waits, receiverWaits, silent]
                exact ih laterInTime
              · have isLate : ∀ later ∈ some (now + (milliseconds + 1)),
                    ¬IsInTime shutdown limits.receiveTimeout later := by
                  intro later comes
                  cases comes
                  exact laterInTime
                -- The receiver alone sits the wait out, so its end is no earlier, and late as well.
                have notBefore := Receiver.scanner.le_time_run ending (now + (milliseconds + 1))
                  receiver items
                simp only [Scanner.run, waits, receiverWaits, alarm_of_late inTime isLate]
                apply IsDecided.refused receiver.hasStarted items
                apply reception_of_late
                intro last ends lastInTime
                have lastEq := Run.time_eq_of_end ends
                exact laterInTime (lastInTime.of_le (notBefore.trans_eq lastEq))

theorem isDecided_runUnder (kind : Kind) (limits : Limits) (shutdown : Option Nat)
    (source : Source) (sink : Sink) :
    IsDecided limits shutdown sink (Receiver.scanner.read (.start kind limits) source)
      (scanner.read ⟨.start kind limits, sink⟩ source)
      (runUnder kind limits shutdown source sink) := by
  rw [runUnder]
  split
  · rename_i atOnce
    subst atOnce
    apply IsDecided.refused false source.items
    rw [reception_of_late]
    · rfl
    · intro last _ inTime
      exact absurd (inTime.2 0 rfl) (Nat.not_lt_zero last)
  · rename_i notAtOnce
    apply isDecided_run
    refine ⟨Nat.zero_le _, ?_⟩
    rintro time rfl
    exact Nat.pos_of_ne_zero fun isZero => notAtOnce (congrArg some isZero)

theorem IsDecided.of_refused {time : Nat} {failure : Failure}
    (decided : IsDecided limits shutdown sink parse relay run)
    (refused : reception limits shutdown parse = .error (time, failure)) :
    GivesUpAt run time failure := by
  cases decided with
  | refused hadStarted items cause =>
      cases refused.symm.trans cause
      exact ⟨rfl, _, rfl, rfl⟩
  | accepted under => cases refused.symm.trans under.accepted

theorem IsDecided.of_accepted (decided : IsDecided limits shutdown sink parse relay run)
    (accepted : reception limits shutdown parse = .ok header) :
    IsUnder limits shutdown parse relay header run := by
  cases decided with
  | refused hadStarted items cause => cases accepted.symm.trans cause
  | accepted under =>
      cases accepted.symm.trans under.accepted
      exact under

end Reception

end Pass

/-- How a pass stands whose run came to an outcome. -/
def PassResult.ofOutcome : Outcome (Flow Pass) Pass.Delivered Pass.Abandoned → PassResult
  | .done _ => .complete
  | .failed abandoned => .failed abandoned.failure
  | .waiting _ => .pending

structure PassReport.EndsAt (report : PassReport) (time : Nat) (result : PassResult) : Prop where
  time : report.time = time
  result : report.result = result

theorem endsAt_exchangePass {kind : Kind} {limits : LimitsByKind} {shutdown : Option Nat}
    {channels : Sides Channel} {run : Run (Flow Pass) Pass.Delivered Pass.Abandoned}
    (ran : Pass.runUnder kind (limits.of kind) shutdown (channels.get kind.origin).source
      (channels.get kind.destination).sink = run) :
    (exchangePass kind limits shutdown channels).EndsAt run.time (.ofOutcome run.outcome) := by
  rcases run with ⟨time, outcome, items⟩
  simp only [exchangePass, ran]
  cases outcome with
  | done delivered => exact ⟨rfl, rfl⟩
  | waiting flow => exact ⟨rfl, rfl⟩
  | failed abandoned =>
      cases status : abandoned.status kind <;> simp only [status] <;> exact ⟨rfl, rfl⟩

theorem PassReport.EndsAt.of_givesUpAt {report : PassReport} {time : Nat} {failure : Failure}
    {run : Run (Flow Pass) Pass.Delivered Pass.Abandoned}
    (reported : report.EndsAt run.time (.ofOutcome run.outcome))
    (gaveUp : Pass.GivesUpAt run time failure) : report.EndsAt time (.failed failure) := by
  rcases gaveUp.failed with ⟨abandoned, failed, rfl⟩
  refine ⟨reported.time.trans gaveUp.time, reported.result.trans ?_⟩
  rw [failed, PassResult.ofOutcome]

namespace PassReport

/-- The header of a message was not accepted, over a failure that follows from what the receiver
alone would have come to. -/
structure IsRefused (kind : Kind) (limits : LimitsByKind) (shutdown : Option Nat)
    (channels : Sides Channel) (failure : Failure) (report : PassReport) : Prop where
  noHeader : report.hasHeader = false
  failed : report.result = .failed failure
  cause : Pass.reception (limits.of kind) shutdown
    (Receiver.scanner.read (.start kind (limits.of kind)) (channels.get kind.origin).source) =
      .error (report.time, failure)
  isUnrelayed : ∀ error, failure ≠ .relay error

/-- The header of a message was accepted, since the receiver alone comes to it in time, and the pass
ended as it would by itself, or with shutdown. -/
structure IsUnder (kind : Kind) (limits : LimitsByKind) (shutdown : Option Nat)
    (channels : Sides Channel) (header : Header) (report : PassReport) : Prop where
  hasHeader : report.hasHeader = true
  accepted : Pass.reception (limits.of kind) shutdown
    (Receiver.scanner.read (.start kind (limits.of kind)) (channels.get kind.origin).source) =
      .ok header
  cause : ∀ failure, report.result = .failed failure → Pass.EndsRelay shutdown failure
  ends :
    let relay := Pass.scanner.read
      ⟨.start kind (limits.of kind), (channels.get kind.destination).sink⟩
      (channels.get kind.origin).source
    report.result = .ofOutcome relay.outcome ∨
      report.result = .failed .interrupted ∧
        ∃ time ∈ shutdown, ∀ last ∈ relay.end?, time ≤ last

end PassReport

section Reports

variable {kind : Kind} {limits : LimitsByKind} {shutdown : Option Nat} {channels : Sides Channel}
  {run : Run (Flow Pass) Pass.Delivered Pass.Abandoned} {header : Header} {failure : Failure}
  {time : Nat}

theorem hasHeader_of_run
    (ran : Pass.runUnder kind (limits.of kind) shutdown (channels.get kind.origin).source
      (channels.get kind.destination).sink = run) :
    (exchangePass kind limits shutdown channels).hasHeader =
      match run.outcome with
      | .done _ => true
      | .waiting flow => flow.progress.header?.isSome
      | .failed abandoned => abandoned.accepted.isSome := by
  rcases run with ⟨time, outcome, items⟩
  simp only [exchangePass, ran]
  cases outcome with
  | done delivered => rfl
  | waiting flow => rfl
  | failed abandoned => cases status : abandoned.status kind <;> simp only [status]

theorem isRefused_of_run {hadStarted : Bool} {sink : Sink} {items : List Source.Item}
    (ran : Pass.runUnder kind (limits.of kind) shutdown (channels.get kind.origin).source
      (channels.get kind.destination).sink =
        ⟨time, .failed ⟨failure, hadStarted, none, sink⟩, items⟩)
    (cause : Pass.reception (limits.of kind) shutdown
      (Receiver.scanner.read (.start kind (limits.of kind)) (channels.get kind.origin).source) =
        .error (time, failure)) :
    (exchangePass kind limits shutdown channels).IsRefused kind limits shutdown channels
      failure := by
  have reported := endsAt_exchangePass ran
  refine ⟨hasHeader_of_run ran, reported.result, ?_, Pass.ne_relay_of_reception cause⟩
  rw [reported.time]
  exact cause

theorem isUnder_of_run
    (ran : Pass.runUnder kind (limits.of kind) shutdown (channels.get kind.origin).source
      (channels.get kind.destination).sink = run)
    (under : Pass.IsUnder (limits.of kind) shutdown
      (Receiver.scanner.read (.start kind (limits.of kind)) (channels.get kind.origin).source)
      (Pass.scanner.read ⟨.start kind (limits.of kind), (channels.get kind.destination).sink⟩
        (channels.get kind.origin).source) header run) :
    (exchangePass kind limits shutdown channels).IsUnder kind limits shutdown channels header := by
  have reported := endsAt_exchangePass ran
  have held := under.outcome
  refine ⟨?_, under.accepted, ?_, ?_⟩
  · rw [hasHeader_of_run ran]
    cases outcome : run.outcome with
    | done delivered => rfl
    | waiting flow =>
        rw [outcome] at held
        simp only [show flow.progress.header? = some header from held, Option.isSome_some]
    | failed abandoned =>
        rw [outcome] at held
        simp only [held.accepted, Option.isSome_some]
  · intro failure failed
    rw [reported.result] at failed
    cases outcome : run.outcome with
    | done delivered => simp [outcome, PassResult.ofOutcome] at failed
    | waiting flow => simp [outcome, PassResult.ofOutcome] at failed
    | failed abandoned =>
        rw [outcome] at held failed
        cases failed
        exact held.cause
  · intro relay
    by_cases undisturbed : ∀ time ∈ shutdown, ∃ last ∈ relay.end?, last < time
    · left
      rw [reported.result, under.leftAlone.undisturbed undisturbed]
    · right
      simp only [not_forall, not_exists, not_and, Nat.not_lt] at undisturbed
      rcases undisturbed with ⟨time, announced, isFirst⟩
      have gaveUp := under.leftAlone.interrupted time announced isFirst
      exact ⟨(reported.of_givesUpAt gaveUp).result, time, announced, isFirst⟩

/-- A header is accepted exactly if the receiver alone comes to it, and does so in time. -/
theorem hasHeader_exchangePass (kind : Kind) (limits : LimitsByKind) (shutdown : Option Nat)
    (channels : Sides Channel) :
    let parse := Receiver.scanner.read (.start kind (limits.of kind))
      (channels.get kind.origin).source
    (exchangePass kind limits shutdown channels).hasHeader = true ↔
      ∃ header, parse.outcome = .done header ∧
        Pass.IsInTime shutdown (limits.of kind).receiveTimeout parse.time := by
  intro parse
  simp only [← Pass.reception_eq_ok_iff]
  have decided := Pass.isDecided_runUnder kind (limits.of kind) shutdown
    (channels.get kind.origin).source (channels.get kind.destination).sink
  cases ran : Pass.runUnder kind (limits.of kind) shutdown (channels.get kind.origin).source
    (channels.get kind.destination).sink with
  | mk time outcome items =>
      rw [ran] at decided
      cases decided with
      | refused hadStarted items cause =>
          simp only [(isRefused_of_run ran cause).noHeader, parse, cause, reduceCtorEq,
            exists_false, Bool.false_eq_true]
      | accepted under =>
          have accepted := isUnder_of_run ran under
          simp only [accepted.hasHeader, true_iff]
          exact ⟨_, accepted.accepted⟩

end Reports

/-- The header, the receive timeout and shutdown race for the end of a pass. The first of them
decides, and an accepted header leaves the race to shutdown and the message itself. -/
theorem exchangePass_race (kind : Kind) (limits : LimitsByKind) (shutdown : Option Nat)
    (channels : Sides Channel) :
    let allowed := (limits.of kind).receiveTimeout
    let source := (channels.get kind.origin).source
    let sink := (channels.get kind.destination).sink
    let parse := Receiver.scanner.read (.start kind (limits.of kind)) source
    let relay := Pass.scanner.read ⟨.start kind (limits.of kind), sink⟩ source
    let report := exchangePass kind limits shutdown channels
    (∀ time ∈ shutdown, time = 0 ∨ time < allowed ∧ (∀ last ∈ parse.end?, time < last) →
      report.EndsAt time (.failed .interrupted)) ∧
    ((∀ time ∈ shutdown, allowed < time) → (∀ last ∈ parse.end?, allowed < last) →
      report.EndsAt allowed (.failed (.timeout (.ofMilliseconds allowed)))) ∧
    ∀ parsed ∈ parse.end?, parsed < allowed → (∀ time ∈ shutdown, parsed < time) →
      (∀ error, parse.outcome = .failed error →
        report.EndsAt parsed (.failed (.header error))) ∧
      ∀ header, parse.outcome = .done header →
        (∀ time ∈ shutdown, (∀ last ∈ relay.end?, time < last) →
          report.EndsAt time (.failed .interrupted)) ∧
        (∀ last ∈ relay.end?, (∀ time ∈ shutdown, last ≤ time) →
          parsed ≤ last ∧ report.time = last ∧
            (last ∉ shutdown → report.EndsAt last (.ofOutcome relay.outcome))) ∧
        (relay.end? = none → shutdown = none → report.result = .pending) := by
  intro allowed source sink parse relay report
  have reported : report.EndsAt _ _ := endsAt_exchangePass rfl
  have decided := Pass.isDecided_runUnder kind (limits.of kind) shutdown source sink
  refine ⟨?_, ?_, ?_⟩
  · intro time announced isFirst
    apply reported.of_givesUpAt
    apply decided.of_refused
    have notAfter : time ≤ allowed := by
      rcases isFirst with rfl | ⟨isBefore, _⟩ <;> omega
    rw [← Pass.lapse_of_announced announced notAfter]
    apply Pass.reception_of_late
    intro last ends inTime
    have isAfter := inTime.2 time announced
    rcases isFirst with rfl | ⟨_, isFirst⟩
    · exact absurd isAfter (Nat.not_lt_zero last)
    · exact absurd (isFirst last ends) (Nat.not_lt_of_lt isAfter)
  · intro running isFirst
    apply reported.of_givesUpAt
    apply decided.of_refused
    rw [← Pass.lapse_of_running running]
    apply Pass.reception_of_late
    intro last ends inTime
    exact absurd inTime.1 (Nat.not_le_of_lt (isFirst last ends))
  · intro parsed ends isBefore running
    have parseTime : parse.time = parsed := Run.time_eq_of_end ends
    subst parsed
    have inTime : Pass.IsInTime shutdown allowed parse.time := ⟨Nat.le_of_lt isBefore, running⟩
    refine ⟨?_, ?_⟩
    · intro error failed
      apply reported.of_givesUpAt
      exact decided.of_refused (Pass.reception_of_failed failed inTime)
    · intro header accepted
      have under := decided.of_accepted (Pass.reception_eq_ok_iff.mpr ⟨accepted, inTime⟩)
      have leftAlone := under.leftAlone
      refine ⟨?_, ?_, ?_⟩
      · intro time announced isFirst
        apply reported.of_givesUpAt
        apply leftAlone.interrupted time announced
        intro last ends
        exact Nat.le_of_lt (isFirst last ends)
      · intro last ends notAfter
        have relayTime : relay.time = last := Run.time_eq_of_end ends
        refine ⟨relayTime ▸ under.isLater, reported.time.trans (leftAlone.time_eq ends notAfter),
          ?_⟩
        intro unannounced
        have asRelay : report.EndsAt relay.time (.ofOutcome relay.outcome) :=
          endsAt_exchangePass (leftAlone.eq_relay ends notAfter unannounced)
        exact relayTime ▸ asRelay
      · rintro endless rfl
        have asRelay : report.EndsAt relay.time (.ofOutcome relay.outcome) :=
          endsAt_exchangePass (leftAlone.undisturbed nofun)
        rcases Run.exists_waiting_of_endless endless with ⟨flow, waiting⟩
        rw [asRelay.result, waiting, PassResult.ofOutcome]

end HttpRelay
