import HttpRelay.Proofs.Relay.Race

/-!
# What a client gets of a response

The pass for a response does one of two things. Either no header was accepted, and the client
gets a single status response, as far as it takes one; or a header was accepted, and the
client gets nothing but a part of the forwarded response, counted from the front. No failure,
at whatever moment it comes, puts a status behind the beginning of a response.
-/

namespace HttpRelay

namespace Pass

/-- What a run of a pass comes to, given all bytes of its source. -/
theorem tracks_runUnder (kind : Kind) (limits : Limits) (shutdown : Option Nat) (source : Source)
    (sink : Sink) :
    match (runUnder kind limits shutdown source sink).outcome with
    | .done delivered =>
        ∃ taken, source.unread =
            taken ++ Source.bytesOf (runUnder kind limits shutdown source sink).items ∧
          Delivers kind limits sink taken delivered
    | .failed abandoned =>
        ∃ taken, taken <+: source.unread ∧ Leaves kind limits sink taken abandoned
    | .waiting flow => Tracks kind limits sink source.unread flow := by
  have start := tracks_start kind limits sink
  by_cases atOnce : shutdown = some 0
  · simp only [runUnder, atOnce, if_true]
    exact ⟨[], List.nil_prefix, start.leaves (isAt_abandon_interrupted _)⟩
  · simp only [runUnder, atOnce, if_false]
    rcases scanner.exists_stop_run (alarm shutdown limits limits.receiveTimeout) source.ending 0
      ⟨.start kind limits, sink⟩ source.items with ⟨taken, stop, reached, ended⟩
    have tracks := start.scan taken
    simp only [reached, List.nil_append] at tracks
    cases outcome : (scanner.run (alarm shutdown limits limits.receiveTimeout) source.ending 0
      ⟨.start kind limits, sink⟩ source.items).outcome with
    | done delivered =>
        simp only [outcome] at ended ⊢
        rcases ended with ⟨byte, accepted, unread⟩
        have step := Tracks.accept tracks byte
        simp only [show accept stop byte = .done delivered from accepted] at step
        refine ⟨taken ++ [byte], ?_, step⟩
        rw [← List.append_cons]
        exact unread
    | failed abandoned =>
        simp only [outcome] at ended ⊢
        rcases ended with ⟨last, fails, isPrefix⟩
        exact ⟨taken ++ last, isPrefix, Tracks.leaves_of_failsAt tracks isAt_of_alarm fails⟩
    | waiting flow =>
        simp only [outcome] at ended ⊢
        rcases ended with ⟨rfl, unread, _⟩
        rw [Source.unread, unread]
        exact tracks

/-- Where a pass that came to an outcome has written. -/
def sinkOf : Outcome (Flow Pass) Delivered Abandoned → Sink
  | .done delivered => delivered.sink
  | .failed abandoned => abandoned.sink
  | .waiting flow => flow.sink

/-- What went from a source to a sink under the header of a message. -/
structure Forwards (kind : Kind) (limits : Limits) (source : Source) (origin sink : Sink)
    (message : Message) (rest written : Bytes) : Prop where
  begins : Message.Begins kind limits message source.unread rest
  isPart : written <+: message.forwarded
  output : sink.output = origin.output ++ written

section Forwarding

variable {kind : Kind} {limits : Limits} {shutdown : Option Nat} {origin : Sink} {source : Source}
  {taken : Bytes} {header : Header} {run : Run (Flow Pass) Delivered Abandoned}

theorem exists_forwards_of_leaves {abandoned : Abandoned}
    (accepted : abandoned.accepted = some header) (isPrefix : taken <+: source.unread)
    (leaves : Leaves kind limits origin taken abandoned) :
    ∃ body rest written,
      Forwards kind limits source origin abandoned.sink ⟨header, body⟩ rest written := by
  simp only [Leaves, accepted] at leaves
  rcases isPrefix with ⟨rest, unread⟩
  rcases leaves with ⟨body, begins, grows, isPart⟩
  rcases grows.output with ⟨written, output⟩
  have begins := begins.append rest
  simp only [List.nil_append, unread] at begins
  rw [← output, List.prefix_append_right_inj] at isPart
  exact ⟨body, rest, written, begins, isPart, output.symm⟩

/-- A pass under a header has written a part of the message, and the whole of it when it is
done. -/
theorem exists_forwards_runUnder (ran : runUnder kind limits shutdown source origin = run)
    (held : run.outcome.Holds (·.progress.header? = some header) (·.header = header)
      (IsLeft shutdown header)) :
    ∃ body rest written,
      Forwards kind limits source origin (sinkOf run.outcome) ⟨header, body⟩ rest written ∧
        ∀ delivered, run.outcome = .done delivered →
          Body.IsWhole header.framing body ∧ written = Message.forwarded ⟨header, body⟩ ∧
            Source.bytesOf run.items = rest := by
  have tracks := tracks_runUnder kind limits shutdown source origin
  rw [ran] at tracks
  cases outcome : run.outcome with
  | done delivered =>
      simp only [outcome] at tracks held
      cases held
      rcases tracks with ⟨taken, unread, body, isFirst, _, output⟩
      have isFirst := isFirst.append (Source.bytesOf run.items)
      simp only [List.nil_append, ← unread] at isFirst
      refine ⟨body, _, _, ⟨isFirst.toBegins, List.prefix_rfl, output⟩, ?_⟩
      intro _ _
      exact ⟨isFirst.isWhole, rfl, rfl⟩
  | failed abandoned =>
      simp only [outcome] at tracks held
      rcases tracks with ⟨taken, isPrefix, leaves⟩
      rcases exists_forwards_of_leaves held.accepted isPrefix leaves with
        ⟨body, rest, written, forwards⟩
      refine ⟨body, rest, written, forwards, ?_⟩
      intro delivered isDone
      cases isDone
  | waiting flow =>
      simp only [outcome] at tracks held
      -- A pass that goes on has written what it would leave if it were given up now.
      have leaves := Tracks.leaves tracks (isAt_abandon_interrupted flow)
      have accepted : (abandon flow .interrupted).accepted = some header := held
      rcases exists_forwards_of_leaves accepted List.prefix_rfl leaves with
        ⟨body, rest, written, forwards⟩
      refine ⟨body, rest, written, forwards, ?_⟩
      intro delivered isDone
      cases isDone

end Forwarding

end Pass

/-- Sending a status writes as much of its response as there is room for. -/
theorem output_sendStatus (status : Status) (client : Sink) :
    (sendStatus status client).1.output = client.output ++ client.fitting status.response := by
  have output := client.output_write status.response
  cases wrote : client.write status.response with
  | mk written fault =>
      simp only [wrote] at output
      simp only [sendStatus, wrote]
      split <;> exact output

namespace PassReport

/-- The header of a message was accepted, and its destination got a part of the message and nothing
else. -/
structure IsForwarded (kind : Kind) (limits : LimitsByKind) (shutdown : Option Nat)
    (channels : Sides Channel) (message : Message) (rest written : Bytes) (report : PassReport) :
    Prop where
  under : report.IsUnder kind limits shutdown channels message.header
  forwards : Pass.Forwards kind (limits.of kind) (channels.get kind.origin).source
    (channels.get kind.destination).sink (report.channels.get kind.destination).sink message rest
    written
  complete : report.result = .complete →
    Body.IsWhole message.header.framing message.body ∧ written = message.forwarded ∧
      (report.channels.get kind.origin).source.unread = rest

/-- The header of a response was not accepted, and the client got the status of the failure and
nothing else. -/
structure IsAnswered (limits : LimitsByKind) (shutdown : Option Nat) (channels : Sides Channel)
    (failure : Failure) (report : PassReport) : Prop where
  refused : report.IsRefused .response limits shutdown channels failure
  status : ∃ fate, report.status = some (failure.responseStatus, fate)
  counted : report.metrics = Metrics.none.addStatus failure.responseStatus .response
  output : report.channels.client.sink.output =
    channels.client.sink.output ++
      channels.client.sink.fitting failure.responseStatus.response

/-- The header of a response was accepted, and the client got a part of the message and no
status. -/
structure IsRelayed (limits : LimitsByKind) (shutdown : Option Nat) (channels : Sides Channel)
    (message : Message) (rest written : Bytes) (report : PassReport) : Prop where
  forwarded : report.IsForwarded .response limits shutdown channels message rest written
  noStatus : report.status = none
  uncounted : report.metrics = .none

end PassReport

theorem exchangePass_kind (kind : Kind) (limits : LimitsByKind) (shutdown : Option Nat)
    (channels : Sides Channel) : (exchangePass kind limits shutdown channels).kind = kind := by
  simp only [exchangePass]
  split
  · rfl
  · rfl
  · split <;> rfl

section Forwarded

variable {kind : Kind} {limits : LimitsByKind} {shutdown : Option Nat} {channels : Sides Channel}
  {time : Nat} {outcome : Outcome (Flow Pass) Pass.Delivered Pass.Abandoned}
  {items : List Source.Item} {header : Header}

theorem source_exchangePass_of_done {delivered : Pass.Delivered}
    (ran : Pass.runUnder kind (limits.of kind) shutdown (channels.get kind.origin).source
      (channels.get kind.destination).sink = ⟨time, .done delivered, items⟩) :
    ((exchangePass kind limits shutdown channels).channels.get kind.origin).source.items =
      items := by
  simp only [exchangePass, ran]
  cases kind <;> rfl

/-- Behind an accepted header no status is sent to the destination of a message. -/
theorem sink_exchangePass_of_holds
    (ran : Pass.runUnder kind (limits.of kind) shutdown (channels.get kind.origin).source
      (channels.get kind.destination).sink = ⟨time, outcome, items⟩)
    (held : outcome.Holds (·.progress.header? = some header) (·.header = header)
      (Pass.IsLeft shutdown header)) :
    ((exchangePass kind limits shutdown channels).channels.get kind.destination).sink =
      Pass.sinkOf outcome := by
  simp only [exchangePass, ran]
  cases outcome with
  | done delivered | waiting flow => cases kind <;> rfl
  | failed abandoned =>
      cases kind with
      | request =>
          cases status : abandoned.status .request <;> simp only [status] <;> rfl
      | response =>
          have noStatus : abandoned.status .response = none := by
            simp only [Pass.Abandoned.status, held.accepted, Option.isSome_some, if_true]
          simp only [noStatus]
          rfl

/-- What a pass of either kind does with a message whose header it accepts. -/
theorem exists_isForwarded_of_under
    (ran : Pass.runUnder kind (limits.of kind) shutdown (channels.get kind.origin).source
      (channels.get kind.destination).sink = ⟨time, outcome, items⟩)
    (under : Pass.IsUnder (limits.of kind) shutdown
      (Receiver.scanner.read (.start kind (limits.of kind)) (channels.get kind.origin).source)
      (Pass.scanner.read ⟨.start kind (limits.of kind), (channels.get kind.destination).sink⟩
        (channels.get kind.origin).source) header ⟨time, outcome, items⟩) :
    ∃ message rest written, (exchangePass kind limits shutdown channels).IsForwarded kind limits
      shutdown channels message rest written := by
  rcases Pass.exists_forwards_runUnder ran under.outcome with
    ⟨body, rest, written, forwards, complete⟩
  refine ⟨⟨header, body⟩, rest, written, isUnder_of_run ran under, ?_, ?_⟩
  · rw [sink_exchangePass_of_holds ran under.outcome]
    exact forwards
  · intro isComplete
    rw [(endsAt_exchangePass ran).result] at isComplete
    cases outcome with
    | done delivered =>
        rcases complete delivered rfl with ⟨isWhole, isAll, left⟩
        refine ⟨isWhole, isAll, ?_⟩
        rw [Source.unread, source_exchangePass_of_done ran]
        exact left
    | failed abandoned | waiting flow => cases isComplete

end Forwarded

section Reports

variable {limits : LimitsByKind} {shutdown : Option Nat} {channels : Sides Channel} {time : Nat}
  {items : List Source.Item}

theorem exchangePass_response_of_refused {failure : Failure} {hadStarted : Bool} {sink : Sink}
    (ran : Pass.runUnder .response limits.response shutdown channels.target.source
      channels.client.sink = ⟨time, .failed ⟨failure, hadStarted, none, sink⟩, items⟩) :
    exchangePass .response limits shutdown channels =
      ⟨.response, .failed failure, time, hadStarted, false,
        ⟨channels.client.withSink (sendStatus failure.responseStatus sink).1,
          channels.target.withItems items⟩,
        some (failure.responseStatus, (sendStatus failure.responseStatus sink).2)⟩ := by
  simp only [exchangePass, Kind.origin, Kind.destination, Sides.get, LimitsByKind.of, ran,
    Sides.modify, Pass.Abandoned.status, Option.isSome_none, Bool.false_eq_true, if_false,
    Channel.withSink]

theorem isAnswered_of_refused {failure : Failure} {hadStarted : Bool}
    (ran : Pass.runUnder .response limits.response shutdown channels.target.source
      channels.client.sink =
        ⟨time, .failed ⟨failure, hadStarted, none, channels.client.sink⟩, items⟩)
    (cause : Pass.reception limits.response shutdown
      (Receiver.scanner.read (.start .response limits.response) channels.target.source) =
        .error (time, failure)) :
    (exchangePass .response limits shutdown channels).IsAnswered limits shutdown channels
      failure := by
  have answered := exchangePass_response_of_refused ran
  refine ⟨isRefused_of_run ran cause, ?_, ?_, ?_⟩
  · rw [answered]
    exact ⟨_, rfl⟩
  · rw [answered]
    rfl
  · rw [answered]
    exact output_sendStatus _ _

/-- A response that has begun to go out is never followed by a status. -/
theorem status_exchangePass_response
    (hasHeader : (exchangePass .response limits shutdown channels).hasHeader = true) :
    (exchangePass .response limits shutdown channels).status = none := by
  cases ran : Pass.runUnder .response limits.response shutdown channels.target.source
    channels.client.sink with
  | mk time outcome items =>
      cases outcome with
      | failed abandoned =>
          rcases abandoned with ⟨failure, hadStarted, _ | header, sink⟩
          · rw [exchangePass_response_of_refused ran] at hasHeader
            cases hasHeader
          · simp only [exchangePass, Kind.origin, Kind.destination, Sides.get, LimitsByKind.of, ran,
              Pass.Abandoned.status, Option.isSome_some, if_true]
      | done delivered | waiting flow =>
          simp only [exchangePass, Kind.origin, Kind.destination, Sides.get, LimitsByKind.of, ran]

theorem sink_target_exchangePass_response :
    (exchangePass .response limits shutdown channels).channels.target.sink =
      channels.target.sink := by
  simp only [exchangePass]
  split
  · rfl
  · rfl
  · split <;> rfl

theorem isAnswered_or_isRelayed (limits : LimitsByKind) (shutdown : Option Nat)
    (channels : Sides Channel) :
    (∃ failure, (exchangePass .response limits shutdown channels).IsAnswered limits shutdown
        channels failure) ∨
      ∃ message rest written, (exchangePass .response limits shutdown channels).IsRelayed limits
        shutdown channels message rest written := by
  have decided := Pass.isDecided_runUnder .response limits.response shutdown
    channels.target.source channels.client.sink
  cases ran : Pass.runUnder .response limits.response shutdown channels.target.source
    channels.client.sink with
  | mk time outcome items =>
      rw [ran] at decided
      cases decided with
      | refused hadStarted items cause => exact Or.inl ⟨_, isAnswered_of_refused ran cause⟩
      | accepted under =>
          rcases exists_isForwarded_of_under ran under with ⟨message, rest, written, forwarded⟩
          have noStatus := status_exchangePass_response forwarded.under.hasHeader
          refine Or.inr ⟨message, rest, written, forwarded, noStatus, ?_⟩
          rw [PassReport.metrics, noStatus]

end Reports

end HttpRelay
