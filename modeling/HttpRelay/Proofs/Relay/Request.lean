import HttpRelay.Proofs.Relay.Response

/-!
# What the two sides get of a request

The pass for a request keeps a request back whose header was not accepted: the target gets
nothing of it. Of any other request the target gets a part of the forwarded form, counted from
the front, and all of it if the pass completes. The client is told of a failure by one status
response, unless it closed before its request began.

The client is the source of a request and the place where the status goes. How it takes the
status has no influence on anything else, so that no client can find out by it what the target
was sent, nor change it.
-/

namespace HttpRelay

namespace Source

/-- The time at which the first byte of a source is there, if one ever comes. -/
def firstArrival : List Item → Option Nat
  | [] => none
  | .segment [] :: items => firstArrival items
  | .segment (_ :: _) :: _ => some 0
  | .delay milliseconds :: items => (firstArrival items).map (milliseconds + ·)

end Source

namespace Pass

variable {kind : Kind} {limits : Limits} {flow next : Flow Pass} {sink : Sink}
  {shutdown : Option Nat} {deadline now : Nat} {ending : Source.Ending} {byte : UInt8}

section Beginning

/-- Whether a pass that came to an outcome has seen a byte of its message. -/
def hasBegun : Outcome (Flow Pass) Delivered Abandoned → Bool
  | .done _ => true
  | .failed abandoned => abandoned.hadStarted
  | .waiting flow => flow.progress.hasStarted

theorem hasStarted_of_accept (accepted : scanner.accept flow byte = .more next) :
    next.progress.hasStarted = true := by
  rcases flow with ⟨receiver | ⟨header, body⟩, sink⟩
  · rcases accept_receiving_eq_more_iff.mp accepted with
      ⟨nextReceiver, received, rfl⟩ | ⟨header, _, forwarded⟩
    · have taken := Receiver.taken_accept received
      simp only [hasStarted, Receiver.hasStarted, bne_iff_ne]
      omega
    · rcases exists_body_of_forward forwarded with ⟨body, progress⟩
      simp only [progress, hasStarted]
  · rcases ofBodyStep_eq_more_iff.mp accepted with ⟨nextBody, _, progress⟩
    simp only [progress, hasStarted]

theorem hasStarted_of_scan {stop : Flow Pass} {taken : Bytes}
    (started : flow.progress.hasStarted = true)
    (reached : scanner.scan flow taken = .more stop) : stop.progress.hasStarted = true := by
  induction taken generalizing flow with
  | nil =>
      cases reached
      exact started
  | cons byte taken ih =>
      simp only [Scanner.scan] at reached
      cases accepted : scanner.accept flow byte with
      | more next =>
          simp only [accepted] at reached
          exact ih (hasStarted_of_accept accepted) reached
      | done delivered => simp [accepted] at reached
      | failed abandoned => simp [accepted] at reached
      | refused abandoned => simp [accepted] at reached

theorem hadStarted_of_forward {header : Header} {abandoned : Abandoned}
    (forwarded : forward header sink = .failed abandoned) : abandoned.hadStarted = true := by
  rcases exists_broken_of_forward_failed forwarded with ⟨broken, rfl⟩
  rfl

/-- A byte on which a pass fails is a byte of its message. -/
theorem hadStarted_of_failed {abandoned : Abandoned}
    (failed : scanner.accept flow byte = .failed abandoned) : abandoned.hadStarted = true := by
  rcases flow with ⟨receiver | ⟨header, body⟩, sink⟩
  · rcases accept_receiving_eq_failed_iff.mp failed with ⟨error, _, rfl⟩ | ⟨header, _, forwarded⟩
    · rfl
    · exact hadStarted_of_forward forwarded
  · rcases ofBodyStep_eq_failed_iff.mp failed with ⟨broken, _, rfl⟩
    rfl

theorem hadStarted_of_refused {abandoned : Abandoned}
    (refused : scanner.accept flow byte = .refused abandoned) : abandoned.hadStarted = true := by
  rcases flow with ⟨receiver | ⟨header, body⟩, sink⟩
  · rcases accept_receiving_eq_refused_iff.mp refused with ⟨error, refused, _⟩ | ⟨_, _, forwarded⟩
    · exact absurd refused Receiver.accept_ne_refused
    · exact absurd forwarded forward_ne_refused
  · rcases ofBodyStep_eq_refused_iff.mp refused with ⟨broken, _, rfl⟩
    rfl

theorem hadStarted_of_segmentEnd {abandoned : Abandoned}
    (ended : scanner.atSegmentEnd flow = some abandoned)
    (started : flow.progress.hasStarted = true) : abandoned.hadStarted = true := by
  rcases flow with ⟨receiver | ⟨header, body⟩, sink⟩
  · rcases Option.map_eq_some_iff.mp ended with ⟨error, _, rfl⟩
    exact started
  · rcases Option.map_eq_some_iff.mp ended with ⟨broken, _, rfl⟩
    rfl

theorem hadStarted_of_wait {abandoned : Abandoned}
    (waited : scanner.atWait flow = some abandoned) : abandoned.hadStarted = true := by
  rcases flow with ⟨receiver | ⟨header, body⟩, sink⟩
  · -- A receiver waits without giving up.
    cases waited
  · rcases Option.map_eq_some_iff.mp waited with ⟨broken, _, rfl⟩
    rfl

theorem hadStarted_atCut (flow : Flow Pass) (cut : Cut) :
    (scanner.atCut flow cut).hadStarted = flow.progress.hasStarted := by
  rcases flow with ⟨receiver | ⟨header, body⟩, sink⟩ <;> rfl

theorem hadStarted_of_alarm {arrival : Option Nat} {time : Nat} {abandoned : Abandoned}
    (rang : alarm shutdown limits deadline flow now arrival = some (time, abandoned)) :
    abandoned.hadStarted = flow.progress.hasStarted := by
  rcases interrupted_or_expired_of_alarm rang with rfl | expires
  · rfl
  · simp only [expired] at expires
    split at expires
    · cases expires
      rfl
    · cases expires

/-- A pass that has seen a byte of its message knows so in the end. -/
theorem hasBegun_run (started : flow.progress.hasStarted = true) (now : Nat)
    (items : List Source.Item) :
    hasBegun (scanner.run (alarm shutdown limits deadline) ending now flow items).outcome =
      true := by
  rcases scanner.exists_stop_run (alarm shutdown limits deadline) ending now flow items with
    ⟨taken, stop, reached, ended⟩
  have stopStarted := hasStarted_of_scan started reached
  cases outcome : (scanner.run (alarm shutdown limits deadline) ending now flow items).outcome with
  | done delivered => rfl
  | waiting last =>
      simp only [outcome] at ended
      rcases ended with ⟨rfl, _⟩
      exact stopStarted
  | failed abandoned =>
      simp only [outcome] at ended
      rcases ended with ⟨last, fails, _⟩
      cases fails with
      | onByte failed => exact hadStarted_of_failed failed
      | beforeByte refused => exact hadStarted_of_refused refused
      | onSegmentEnd segmentEnded => exact hadStarted_of_segmentEnd segmentEnded stopStarted
      | onWait waited => exact hadStarted_of_wait waited
      | onCut cut => exact (hadStarted_atCut stop cut).trans stopStarted
      | onAlarm rang => exact (hadStarted_of_alarm rang).trans stopStarted

/-- The first byte of a segment that a pass reads makes it begin. -/
theorem hasBegun_run_segment (flow : Flow Pass) (now : Nat) (byte : UInt8) (bytes : Bytes)
    (items : List Source.Item) :
    hasBegun (scanner.run (alarm shutdown limits deadline) ending now flow
      (.segment (byte :: bytes) :: items)).outcome = true := by
  cases accepted : scanner.accept flow byte with
  | more next =>
      have goesOn : scanner.run (alarm shutdown limits deadline) ending now flow
          (.segment (byte :: bytes) :: items) =
            scanner.run (alarm shutdown limits deadline) ending now next
              (.segment bytes :: items) := by
        simp only [Scanner.run, Scanner.feed, accepted]
      rw [goesOn]
      exact hasBegun_run (hasStarted_of_accept accepted) now _
  | done delivered =>
      simp only [Scanner.run, Scanner.feed, accepted]
      rfl
  | failed abandoned =>
      simp only [Scanner.run, Scanner.feed, accepted]
      exact hadStarted_of_failed accepted
  | refused abandoned =>
      simp only [Scanner.run, Scanner.feed, accepted]
      exact hadStarted_of_refused accepted

/-- A pass that is to see a byte behind a delay has to last until the delay is over. -/
theorem hasBegun_run_delay {milliseconds : Nat} (isPositive : 0 < milliseconds)
    (items : List Source.Item) :
    hasBegun (scanner.run (alarm shutdown limits deadline) ending now ⟨.start kind limits, sink⟩
        (.delay milliseconds :: items)).outcome = true ↔
      IsInTime shutdown deadline (now + milliseconds) ∧
        hasBegun (scanner.run (alarm shutdown limits deadline) ending (now + milliseconds)
          ⟨.start kind limits, sink⟩ items).outcome = true := by
  have isLater : now < now + milliseconds := Nat.lt_add_of_pos_right isPositive
  have waits : scanner.atWait ⟨.start kind limits, sink⟩ = none := rfl
  have lasts : alarm shutdown limits deadline ⟨.start kind limits, sink⟩ now
      (some (now + milliseconds)) = none ↔ IsInTime shutdown deadline (now + milliseconds) :=
    alarm_receiving_eq_none_iff isLater
  cases milliseconds with
  | zero => cases isPositive
  | succ milliseconds =>
      simp only [Scanner.run, waits, ← lasts]
      cases rang : alarm shutdown limits deadline ⟨.start kind limits, sink⟩ now
          (some (now + (milliseconds + 1))) with
      | none => simp only [true_and]
      | some ring =>
          have unbegun : ring.2.hadStarted = false := hadStarted_of_alarm rang
          simp only [hasBegun, unbegun, Bool.false_eq_true, reduceCtorEq, false_and]

/-- A pass sees a byte of its message exactly if the first one comes in time. -/
theorem hasBegun_run_start (isInTime : IsInTime shutdown deadline now)
    (items : List Source.Item) :
    hasBegun (scanner.run (alarm shutdown limits deadline) ending now ⟨.start kind limits, sink⟩
        items).outcome = true ↔
      ∃ arrival ∈ Source.firstArrival items, IsInTime shutdown deadline (now + arrival) := by
  induction items generalizing now with
  | nil =>
      simp only [Source.firstArrival, Option.mem_def, reduceCtorEq, false_and, exists_false,
        iff_false, Bool.not_eq_true]
      cases ending with
      | finished => rfl
      | broken fault => rfl
      | stalled =>
          simp only [Scanner.run]
          cases rang : alarm shutdown limits deadline ⟨.start kind limits, sink⟩ now none with
          | none => rfl
          | some ring => exact hadStarted_of_alarm rang
  | cons item items ih =>
      cases item with
      | segment bytes =>
          cases bytes with
          | nil => exact ih isInTime
          | cons byte bytes =>
              simp only [hasBegun_run_segment, Source.firstArrival, Option.mem_def, true_iff]
              exact ⟨0, rfl, isInTime⟩
      | delay milliseconds =>
          rcases Nat.eq_zero_or_pos milliseconds with rfl | isPositive
          · simp only [Source.firstArrival, Nat.zero_add, Option.map_id']
            exact ih isInTime
          · simp only [hasBegun_run_delay isPositive, Source.firstArrival, Option.mem_def,
              Option.map_eq_some_iff]
            constructor
            · rintro ⟨lasts, begun⟩
              rcases (ih lasts).mp begun with ⟨arrival, first, arrives⟩
              rw [Nat.add_assoc] at arrives
              exact ⟨_, ⟨arrival, first, rfl⟩, arrives⟩
            · rintro ⟨_, ⟨arrival, first, rfl⟩, arrives⟩
              rw [← Nat.add_assoc] at arrives
              have lasts := arrives.of_le (Nat.le_add_right _ arrival)
              exact ⟨lasts, (ih lasts).mpr ⟨arrival, first, arrives⟩⟩

theorem hasBegun_runUnder (kind : Kind) (limits : Limits) (shutdown : Option Nat)
    (source : Source) (sink : Sink) :
    hasBegun (runUnder kind limits shutdown source sink).outcome = true ↔
      ∃ arrival ∈ Source.firstArrival source.items,
        IsInTime shutdown limits.receiveTimeout arrival := by
  simp only [runUnder]
  by_cases atOnce : shutdown = some 0
  · simp only [atOnce, if_true]
    constructor
    · intro begun
      cases begun
    · rintro ⟨arrival, _, _, running⟩
      exact absurd (running 0 rfl) (Nat.not_lt_zero _)
  · simp only [atOnce, if_false]
    have isInTime : IsInTime shutdown limits.receiveTimeout 0 := by
      refine ⟨Nat.zero_le _, ?_⟩
      rintro interruption rfl
      exact Nat.pos_of_ne_zero fun isZero => atOnce (congrArg some isZero)
    simpa only [Nat.zero_add] using hasBegun_run_start isInTime source.items

end Beginning

end Pass

theorem Failure.requestStatus_eq_none_iff {failure : Failure} :
    failure.requestStatus = none ↔ failure = .header .connectionClosed := by
  cases failure with
  | header error => cases error <;> simp [requestStatus]
  | timeout allowed => simp [requestStatus]
  | interrupted => simp [requestStatus]
  | relay error => simp [requestStatus]

namespace PassReport

/-- The header of a request was not accepted, over an error in it, a timeout, or shutdown, and
the target got nothing. -/
structure IsKeptBack (limits : LimitsByKind) (shutdown : Option Nat) (channels : Sides Channel)
    (report : PassReport) : Prop where
  refused : ∃ failure, report.IsRefused .request limits shutdown channels failure
  target : report.channels.target.sink = channels.target.sink

/-- The client got nothing, and nothing was counted. -/
structure IsSilent (client : Sink) (report : PassReport) : Prop where
  status : report.status = none
  client : report.channels.client.sink = client
  uncounted : report.metrics = .none

/-- One status was tried to be sent to the client, and it was counted. -/
structure IsTold (client : Sink) (status : Status) (report : PassReport) : Prop where
  attempt : ∃ fate, report.status = some (status, fate)
  client : report.channels.client.sink.output = client.output ++ client.fitting status.response
  counted : report.metrics = Metrics.none.addStatus status .request

/-- What the client hears of a pass for a request: the status of its failure, and nothing if
there is none, or if the client closed before the request began. -/
structure Informs (client : Sink) (report : PassReport) : Prop where
  silent : (∀ failure, report.result = .failed failure → failure = .header .connectionClosed) →
    report.IsSilent client
  told : ∀ failure, report.result = .failed failure → failure ≠ .header .connectionClosed →
    ∃ status, failure.requestStatus = some status ∧ report.IsTold client status

/-- Two reports that differ at most in what the client took. -/
structure AgreesOutsideClient (first second : PassReport) : Prop where
  result : first.result = second.result
  time : first.time = second.time
  hookRuns : first.hookRuns = second.hookRuns
  hasHeader : first.hasHeader = second.hasHeader
  target : first.channels.target = second.channels.target
  unread : first.channels.client.source = second.channels.client.source
  metrics : first.metrics = second.metrics

end PassReport

section Reports

variable {limits : LimitsByKind} {shutdown : Option Nat} {channels : Sides Channel} {time : Nat}
  {items : List Source.Item}

theorem exchangePass_request_of_done {delivered : Pass.Delivered}
    (ran : Pass.runUnder .request limits.request shutdown channels.client.source
      channels.target.sink = ⟨time, .done delivered, items⟩) :
    exchangePass .request limits shutdown channels =
      ⟨.request, .complete, time, true, true,
        ⟨channels.client.withItems items, channels.target.withSink delivered.sink⟩, none⟩ := by
  simp only [exchangePass, Kind.origin, Kind.destination, Sides.get, LimitsByKind.of, ran,
    Sides.modify]

theorem exchangePass_request_of_waiting {flow : Flow Pass}
    (ran : Pass.runUnder .request limits.request shutdown channels.client.source
      channels.target.sink = ⟨time, .waiting flow, items⟩) :
    exchangePass .request limits shutdown channels =
      ⟨.request, .pending, time, flow.progress.hasStarted, flow.progress.header?.isSome,
        ⟨channels.client.withItems items, channels.target.withSink flow.sink⟩, none⟩ := by
  simp only [exchangePass, Kind.origin, Kind.destination, Sides.get, LimitsByKind.of, ran,
    Sides.modify]

theorem exchangePass_request_of_silent {abandoned : Pass.Abandoned}
    (ran : Pass.runUnder .request limits.request shutdown channels.client.source
      channels.target.sink = ⟨time, .failed abandoned, items⟩)
    (silent : abandoned.failure.requestStatus = none) :
    exchangePass .request limits shutdown channels =
      ⟨.request, .failed abandoned.failure, time, abandoned.hadStarted,
        abandoned.accepted.isSome,
        ⟨channels.client.withItems items, channels.target.withSink abandoned.sink⟩, none⟩ := by
  simp only [exchangePass, Kind.origin, Kind.destination, Sides.get, LimitsByKind.of, ran,
    Sides.modify, Pass.Abandoned.status, silent]

theorem exchangePass_request_of_told {abandoned : Pass.Abandoned} {status : Status}
    (ran : Pass.runUnder .request limits.request shutdown channels.client.source
      channels.target.sink = ⟨time, .failed abandoned, items⟩)
    (told : abandoned.failure.requestStatus = some status) :
    exchangePass .request limits shutdown channels =
      ⟨.request, .failed abandoned.failure, time, abandoned.hadStarted,
        abandoned.accepted.isSome,
        ⟨(channels.client.withItems items).withSink (sendStatus status channels.client.sink).1,
          channels.target.withSink abandoned.sink⟩,
        some (status, (sendStatus status channels.client.sink).2)⟩ := by
  simp only [exchangePass, Kind.origin, Kind.destination, Sides.get, LimitsByKind.of, ran,
    Sides.modify, Pass.Abandoned.status, told, Channel.withItems]

/-- What does not depend on whether the client is told of a failure. -/
theorem exists_exchangePass_request_of_failed {abandoned : Pass.Abandoned}
    (ran : Pass.runUnder .request limits.request shutdown channels.client.source
      channels.target.sink = ⟨time, .failed abandoned, items⟩) :
    ∃ client status, exchangePass .request limits shutdown channels =
      ⟨.request, .failed abandoned.failure, time, abandoned.hadStarted,
        abandoned.accepted.isSome, ⟨client, channels.target.withSink abandoned.sink⟩,
        status⟩ := by
  cases requestStatus : abandoned.failure.requestStatus with
  | none => exact ⟨_, _, exchangePass_request_of_silent ran requestStatus⟩
  | some status => exact ⟨_, _, exchangePass_request_of_told ran requestStatus⟩

theorem informs_exchangePass_request (limits : LimitsByKind) (shutdown : Option Nat)
    (channels : Sides Channel) :
    (exchangePass .request limits shutdown channels).Informs channels.client.sink := by
  cases ran : Pass.runUnder .request limits.request shutdown channels.client.source
    channels.target.sink with
  | mk time outcome items =>
      cases outcome with
      | done delivered =>
          simp only [exchangePass_request_of_done ran]
          exact ⟨fun _ => ⟨rfl, rfl, rfl⟩, nofun⟩
      | waiting flow =>
          simp only [exchangePass_request_of_waiting ran]
          exact ⟨fun _ => ⟨rfl, rfl, rfl⟩, nofun⟩
      | failed abandoned =>
          cases requestStatus : abandoned.failure.requestStatus with
          | none =>
              simp only [exchangePass_request_of_silent ran requestStatus]
              refine ⟨fun _ => ⟨rfl, rfl, rfl⟩, ?_⟩
              rintro failure ⟨⟩ isOpen
              exact absurd (Failure.requestStatus_eq_none_iff.mp requestStatus) isOpen
          | some status =>
              simp only [exchangePass_request_of_told ran requestStatus]
              constructor
              · intro closed
                have none := Failure.requestStatus_eq_none_iff.mpr (closed _ rfl)
                cases requestStatus.symm.trans none
              · rintro failure ⟨⟩ _
                exact ⟨status, requestStatus, ⟨_, rfl⟩, output_sendStatus _ _, rfl⟩

/-- What the client takes of a status changes nothing else. -/
theorem agreesOutsideClient_exchangePass {first second : Sides Channel}
    (sameSource : first.client.source = second.client.source)
    (sameTarget : first.target = second.target) :
    (exchangePass .request limits shutdown first).AgreesOutsideClient
      (exchangePass .request limits shutdown second) := by
  cases ran : Pass.runUnder .request limits.request shutdown first.client.source
    first.target.sink with
  | mk time outcome items =>
      have otherRan := ran
      simp only [sameSource, sameTarget] at otherRan
      have sameLeft : (first.client.withItems items).source =
          (second.client.withItems items).source := by
        simp only [Channel.withItems, sameSource]
      cases outcome with
      | done delivered =>
          simp only [exchangePass_request_of_done ran, exchangePass_request_of_done otherRan,
            sameTarget]
          exact ⟨rfl, rfl, rfl, rfl, rfl, sameLeft, rfl⟩
      | waiting flow =>
          simp only [exchangePass_request_of_waiting ran,
            exchangePass_request_of_waiting otherRan, sameTarget]
          exact ⟨rfl, rfl, rfl, rfl, rfl, sameLeft, rfl⟩
      | failed abandoned =>
          cases requestStatus : abandoned.failure.requestStatus with
          | none =>
              simp only [exchangePass_request_of_silent ran requestStatus,
                exchangePass_request_of_silent otherRan requestStatus, sameTarget]
              exact ⟨rfl, rfl, rfl, rfl, rfl, sameLeft, rfl⟩
          | some status =>
              simp only [exchangePass_request_of_told ran requestStatus,
                exchangePass_request_of_told otherRan requestStatus, sameTarget]
              exact ⟨rfl, rfl, rfl, rfl, rfl, sameLeft, rfl⟩

theorem hasStarted_exchangePass_request (limits : LimitsByKind) (shutdown : Option Nat)
    (channels : Sides Channel) :
    (exchangePass .request limits shutdown channels).hasStarted =
      Pass.hasBegun (Pass.runUnder .request limits.request shutdown channels.client.source
        channels.target.sink).outcome := by
  cases ran : Pass.runUnder .request limits.request shutdown channels.client.source
    channels.target.sink with
  | mk time outcome items =>
      cases outcome with
      | done delivered =>
          simp only [exchangePass_request_of_done ran]
          rfl
      | waiting flow =>
          simp only [exchangePass_request_of_waiting ran]
          rfl
      | failed abandoned =>
          rcases exists_exchangePass_request_of_failed ran with ⟨client, status, report⟩
          simp only [report]
          rfl

/-- The hook of a request runs once if its first byte comes in time, and else never. -/
theorem hookRuns_exchangePass_request (limits : LimitsByKind) (shutdown : Option Nat)
    (channels : Sides Channel) :
    (exchangePass .request limits shutdown channels).hookRuns =
      if ∃ arrival ∈ Source.firstArrival channels.client.source.items,
        Pass.IsInTime shutdown limits.request.receiveTimeout arrival then 1 else 0 := by
  have isRequest := exchangePass_kind .request limits shutdown channels
  simp only [PassReport.hookRuns, isRequest, hasStarted_exchangePass_request,
    Pass.hasBegun_runUnder]

theorem isKeptBack_of_refused {failure : Failure} {hadStarted : Bool}
    (ran : Pass.runUnder .request limits.request shutdown channels.client.source
      channels.target.sink =
        ⟨time, .failed ⟨failure, hadStarted, none, channels.target.sink⟩, items⟩)
    (cause : Pass.reception limits.request shutdown
      (Receiver.scanner.read (.start .request limits.request) channels.client.source) =
        .error (time, failure)) :
    (exchangePass .request limits shutdown channels).IsKeptBack limits shutdown channels := by
  refine ⟨⟨failure, isRefused_of_run ran cause⟩, ?_⟩
  rcases exists_exchangePass_request_of_failed ran with ⟨client, status, report⟩
  rw [report]
  rfl

theorem isKeptBack_or_isForwarded (limits : LimitsByKind) (shutdown : Option Nat)
    (channels : Sides Channel) :
    (exchangePass .request limits shutdown channels).IsKeptBack limits shutdown channels ∨
      ∃ message rest written, (exchangePass .request limits shutdown channels).IsForwarded
        .request limits shutdown channels message rest written := by
  have decided := Pass.isDecided_runUnder .request limits.request shutdown
    channels.client.source channels.target.sink
  cases ran : Pass.runUnder .request limits.request shutdown channels.client.source
    channels.target.sink with
  | mk time outcome items =>
      rw [ran] at decided
      cases decided with
      | refused hadStarted items cause => exact Or.inl (isKeptBack_of_refused ran cause)
      | accepted under => exact Or.inr (exists_isForwarded_of_under ran under)

end Reports

end HttpRelay
