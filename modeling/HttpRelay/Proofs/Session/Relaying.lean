import HttpRelay.Proofs.Relay.Response
import HttpRelay.Proofs.Relay.Succession
import HttpRelay.Proofs.Session.Settling

/-!
# What a connection relays

A connection passes requests and responses on in turn. Between any two things that its peers
do, the target has the requests of all complete exchanges and a part of one more, and the
client has the responses of all complete exchanges and a tail: a part of the response to the
request that the target got whole, or one status response, or nothing. A status is the last
thing that a handler does.

The invariant that carries this describes the pass that is under way and what surrounds it.
-/

namespace HttpRelay

namespace Kind

def opposite : Kind → Kind
  | request => response
  | response => request

theorem isDestination_or (kind : Kind) (side : Side) :
    side = kind.destination ∨ side = kind.opposite.destination := by
  cases kind <;> cases side <;> simp [destination, opposite]

/-- By how many the requests that were passed on exceed the responses while a message of the
kind is passed on. -/
def ahead : Kind → Nat
  | request => 0
  | response => 1

end Kind

namespace Sink

/-- A sink that takes all that is written to it, or nothing at all. -/
def TakesAllOrNothing (sink : Sink) : Prop :=
  sink.room = none ∨ sink.room = some 0

variable {sink after : Sink}

theorem TakesAllOrNothing.grows (takes : sink.TakesAllOrNothing) (grows : sink.Grows after) :
    after.TakesAllOrNothing :=
  takes.imp grows.unbounded grows.full

theorem takesAllOrNothing_hangUp (sink : Sink) : sink.hangUp.TakesAllOrNothing :=
  Or.inr rfl

theorem TakesAllOrNothing.output_sendStatus (takes : sink.TakesAllOrNothing) (status : Status) :
    (sendStatus status sink).1.output = sink.output ∨
      (sendStatus status sink).1.output = sink.output ++ status.response := by
  have output := HttpRelay.output_sendStatus status sink
  rcases takes with unbounded | full
  · simp only [fitting, unbounded] at output
    exact Or.inr output
  · simp only [fitting, full, List.take_zero, List.append_nil] at output
    exact Or.inl output

end Sink

namespace Connection

/-- What a client can have behind the responses of all complete exchanges, given what is
behind the messages of these exchanges, and the part of a request that the target has. -/
inductive IsTail (limits : LimitsByKind) (behind : Kind → Bytes) (requestPart : Bytes)
    (hasEnded : Bool) : Bytes → Prop where
  | nothing : IsTail limits behind requestPart hasEnded []
  | response {request : Message} {rest written : Bytes}
      (isFirst : Message.IsFirst .request limits.request request (behind .request) rest)
      (isWhole : requestPart = request.forwarded)
      (isPart : Message.IsPart .response limits.response (behind .response) written) :
      IsTail limits behind requestPart hasEnded written
  | status (status : Status) (isLast : hasEnded = true) :
      IsTail limits behind requestPart hasEnded status.response

theorem IsTail.append {limits : LimitsByKind} {behind extra : Kind → Bytes}
    {requestPart tail : Bytes} {hasEnded : Bool}
    (isTail : IsTail limits behind requestPart hasEnded tail) :
    IsTail limits (fun kind => behind kind ++ extra kind) requestPart hasEnded tail := by
  cases isTail with
  | nothing => exact .nothing
  | response isFirst isWhole isPart =>
      exact .response (isFirst.append _) isWhole (isPart.append _)
  | status status isLast => exact .status status isLast

/-- What both peers got, given what the peers sent: the messages of the complete exchanges in
order, and a part of what is next. -/
structure Relays (limits : LimitsByKind) (streams : Kind → Bytes) (connection : Connection)
    (messages : Kind → List Message) (behind parts : Kind → Bytes) : Prop where
  number : ∀ kind, (messages kind).length = connection.exchanges
  successive : ∀ kind,
    Message.Successive kind (limits.of kind) (streams kind) (messages kind) (behind kind)
  output : ∀ kind, connection.output kind.destination =
    (messages kind).flatMap Message.forwarded ++ parts kind
  request : Message.IsPart .request limits.request (behind .request) (parts .request)
  response : IsTail limits behind (parts .request) connection.hasEnded (parts .response)

/-- What surrounds a pass: everything that was exchanged before it, when it began to write to
the given sink. What the pass itself reads and writes is left open. -/
structure Surrounds (kind : Kind) (limits : LimitsByKind) (streams : Kind → Bytes)
    (origin : Sink) (messages : Kind → List Message) (behind : Kind → Bytes)
    (connection : Connection) : Prop where
  requests : (messages .request).length = connection.exchanges + kind.ahead
  responses : (messages .response).length = connection.exchanges
  successive : ∀ kind,
    Message.Successive kind (limits.of kind) (streams kind) (messages kind) (behind kind)
  unread : behind kind.opposite = connection.incoming kind.opposite
  wrote : origin.output = (messages kind).flatMap Message.forwarded
  got : (connection.outgoing kind.opposite).output =
    (messages kind.opposite).flatMap Message.forwarded
  takes : origin.TakesAllOrNothing
  gets : (connection.outgoing kind.opposite).TakesAllOrNothing

/-- The invariant of a connection whose peers sent the given streams. -/
def Tracks (limits : LimitsByKind) (streams : Kind → Bytes) (connection : Connection) : Prop :=
  match connection.stage with
  | .passing kind pass _ =>
      ∃ origin taken messages behind,
        connection.Surrounds kind limits streams origin messages behind ∧
          behind kind = taken ++ connection.incoming kind ∧
          Pass.Tracks kind (limits.of kind) origin taken (connection.flow kind pass)
  | .ended => ∃ messages behind parts, connection.Relays limits streams messages behind parts

variable {kind : Kind} {limits : LimitsByKind} {streams behind : Kind → Bytes} {origin : Sink}
  {taken : Bytes} {messages : Kind → List Message} {connection after : Connection}

/-- A status that was sent, if anything, is the last thing that a handler did. -/
def IsLastWord (connection : Connection) (tail : Bytes) : Prop :=
  tail = [] ∨ connection.hasEnded = true ∧ ∃ status : Status, tail = status.response

namespace Surrounds

/-- What the peers have while or after a request is passed on. -/
theorem relays_request
    (surrounds : Surrounds .request limits streams origin messages behind connection)
    (exchanges : after.exchanges = connection.exchanges) {written tail : Bytes}
    (isPart : Message.IsPart .request limits.request (behind .request) written)
    (target : (after.outgoing .request).output = origin.output ++ written)
    (isLastWord : after.IsLastWord tail)
    (client : (after.outgoing .response).output =
      (connection.outgoing .response).output ++ tail) :
    ∃ messages behind parts, after.Relays limits streams messages behind parts := by
  refine ⟨messages, behind, fun | .request => written | .response => tail, ?_⟩
  have isTail : IsTail limits behind written after.hasEnded tail := by
    rcases isLastWord with rfl | ⟨hasEnded, status, rfl⟩
    · exact .nothing
    · exact .status status hasEnded
  refine ⟨?_, surrounds.successive, ?_, isPart, isTail⟩
  · intro kind
    simp only [exchanges]
    cases kind with
    | request => exact surrounds.requests
    | response => exact surrounds.responses
  · intro kind
    cases kind with
    | request => exact target.trans (by rw [surrounds.wrote])
    | response => exact client.trans (congrArg (· ++ tail) surrounds.got)

/-- What the peers have while or after a response is passed on. -/
theorem relays_response
    (surrounds : Surrounds .response limits streams origin messages behind connection)
    (exchanges : after.exchanges = connection.exchanges) {tail : Bytes}
    (target : (after.outgoing .request).output = (connection.outgoing .request).output)
    (isTail : Message.IsPart .response limits.response (behind .response) tail ∨
      after.IsLastWord tail)
    (client : (after.outgoing .response).output = origin.output ++ tail) :
    ∃ messages behind parts, after.Relays limits streams messages behind parts := by
  -- The last request has no response yet: it is the part of the exchange that is under way.
  rcases (surrounds.successive .request).split_last surrounds.requests with
    ⟨earlier, request, between, requests, number, successive, isFirst⟩
  refine ⟨fun | .request => earlier | .response => messages .response,
    fun | .request => between | .response => behind .response,
    fun | .request => request.forwarded | .response => tail, ?_⟩
  have got : (after.outgoing .request).output =
      earlier.flatMap Message.forwarded ++ request.forwarded := by
    have before : (connection.outgoing .request).output =
        (messages .request).flatMap Message.forwarded := surrounds.got
    simp only [target, before, requests]
    simp
  refine ⟨?_, ?_, ?_, isFirst.isPart, ?_⟩
  · intro kind
    simp only [exchanges]
    cases kind with
    | request => exact number
    | response => exact surrounds.responses
  · intro kind
    cases kind with
    | request => exact successive
    | response => exact surrounds.successive .response
  · intro kind
    cases kind with
    | request => exact got
    | response => exact client.trans (by rw [surrounds.wrote])
  · rcases isTail with isPart | rfl | ⟨hasEnded, status, rfl⟩
    · exact .response isFirst rfl isPart
    · exact .nothing
    · exact .status status hasEnded

/-- A pass that failed leaves the connection with whole messages and a part of one. -/
theorem fail
    (surrounds : Surrounds kind limits streams origin messages behind connection)
    {abandoned : Pass.Abandoned} {seen : Bytes} (isPrefix : seen <+: behind kind)
    (leaves : Pass.Leaves kind (limits.of kind) origin seen abandoned) :
    Tracks limits streams (connection.fail kind abandoned).1 := by
  rcases isPrefix with ⟨unseen, behindEq⟩
  have left := leaves.isPart unseen
  simp only [behindEq] at left
  rcases left with ⟨written, output, isPart⟩
  cases kind with
  | request =>
      cases told : abandoned.status .request with
      | none =>
          simp only [Connection.fail, told]
          exact surrounds.relays_request rfl isPart output (Or.inl rfl) (List.append_nil _).symm
      | some status =>
          simp only [Connection.fail, told]
          rcases surrounds.gets.output_sendStatus status with nothing | whole
          · exact surrounds.relays_request rfl isPart output (Or.inl rfl)
              (nothing.trans (List.append_nil _).symm)
          · exact surrounds.relays_request rfl isPart output (Or.inr ⟨rfl, status, rfl⟩) whole
  | response =>
      rcases abandoned with ⟨failure, hadStarted, accepted, sink⟩
      cases accepted with
      | none =>
          -- Without a header nothing was written, so a status stands right behind the responses.
          have unmoved : sink = origin := leaves.1
          subst sink
          simp only [Connection.fail, Pass.Abandoned.status, Option.isSome_none,
            Bool.false_eq_true, if_false]
          rcases surrounds.takes.output_sendStatus failure.responseStatus with nothing | whole
          · exact surrounds.relays_response rfl rfl (Or.inr (Or.inl rfl))
              (nothing.trans (List.append_nil _).symm)
          · exact surrounds.relays_response rfl rfl (Or.inr (Or.inr ⟨rfl, _, rfl⟩)) whole
      | some header =>
          simp only [Connection.fail, Pass.Abandoned.status, Option.isSome_some, if_true]
          exact surrounds.relays_response rfl rfl (Or.inl isPart) output

theorem progressed
    (surrounds : Surrounds kind limits streams origin messages behind connection)
    (rest : Bytes) (sink : Sink) :
    Surrounds kind limits streams origin messages behind
      (connection.progressed kind rest sink) := by
  cases kind with
  | request => exact { surrounds with }
  | response => exact { surrounds with }

/-- A message that went through joins those before it, and the next one is awaited. -/
theorem turn {delivered : Pass.Delivered}
    (surrounds : Surrounds kind limits streams origin messages behind connection)
    (reads : behind kind = taken ++ connection.incoming kind)
    (delivers : Pass.Delivers kind (limits.of kind) origin taken delivered)
    (got : connection.outgoing kind = delivered.sink) (now : Nat) :
    Tracks limits streams (connection.turn limits now kind).1 := by
  rcases delivers with ⟨body, isFirst, grows, output⟩
  generalize (⟨delivered.header, body⟩ : Message) = message at isFirst output
  have isNext := isFirst.append (connection.incoming kind)
  rw [← reads, List.nil_append] at isNext
  have successive := (surrounds.successive kind).concat isNext
  have takes : delivered.sink.TakesAllOrNothing := surrounds.takes.grows grows
  rw [← got] at takes output
  have written : (messages kind ++ [message]).flatMap Message.forwarded =
      origin.output ++ message.forwarded := by
    simp only [surrounds.wrote]
    simp
  -- The next pass reads what is left at the other side and writes to where this one came from.
  cases kind with
  | request =>
      refine ⟨connection.outgoing .response, [],
        fun | .request => messages .request ++ [message] | .response => messages .response,
        fun | .request => connection.incoming .request | .response => behind .response,
        ?_, surrounds.unread, Pass.tracks_start _ _ _⟩
      exact
        { requests := by simpa [Connection.turn, Kind.ahead] using surrounds.requests
          responses := surrounds.responses
          successive := fun
            | .request => successive
            | .response => surrounds.successive .response
          unread := rfl
          wrote := surrounds.got
          got := output.trans written.symm
          takes := surrounds.gets
          gets := takes }
  | response =>
      refine ⟨connection.outgoing .request, [],
        fun | .request => messages .request | .response => messages .response ++ [message],
        fun | .request => behind .request | .response => connection.incoming .response,
        ?_, surrounds.unread, Pass.tracks_start _ _ _⟩
      exact
        { requests := surrounds.requests
          responses := by simpa [turn] using surrounds.responses
          successive := fun
            | .request => surrounds.successive .request
            | .response => successive
          unread := rfl
          wrote := surrounds.got
          got := output.trans written.symm
          takes := surrounds.gets
          gets := takes }

end Surrounds

theorem tracks_start (limits : LimitsByKind) (now : Nat) :
    Tracks limits (fun _ => []) (start limits now) := by
  refine ⟨.unbounded, [], fun _ => [], fun _ => [], ?_, rfl, Pass.tracks_start _ _ _⟩
  exact
    { requests := rfl
      responses := rfl
      successive := fun _ => .none []
      unread := rfl
      wrote := rfl
      got := rfl
      takes := Or.inl rfl
      gets := Or.inl rfl }

/-- What a handler does that has read everything there is. -/
theorem Surrounds.await {flow : Flow Pass} {connection : Connection} {deadline : Nat}
    (surrounds : Surrounds kind limits streams origin messages behind connection)
    (reads : behind kind = taken ++ connection.incoming kind)
    (tracks : Pass.Tracks kind (limits.of kind) origin taken flow)
    (same : connection.outgoing kind = flow.sink) (now : Nat) :
    Tracks limits streams (connection.await limits now kind flow deadline).1 := by
  have fails : ∀ {abandoned : Pass.Abandoned}, abandoned.IsAt flow →
      Tracks limits streams (connection.fail kind abandoned).1 := by
    intro abandoned isAt
    apply surrounds.fail _ (tracks.leaves isAt)
    simp only [reads]
    exact List.prefix_append _ _
  simp only [Connection.await]
  split
  · exact fails (Pass.isAt_cut flow .finished)
  · split
    · rename_i abandoned due
      split at due
      · exact fails (Pass.isAt_of_expired due)
      · cases due
    · rcases flow with ⟨pass, sink⟩
      cases same
      exact ⟨origin, taken, messages, behind, { surrounds with }, reads, tracks⟩

theorem tracks_iff_of_passing {pass : Pass} {deadline : Nat}
    (stage : connection.stage = .passing kind pass deadline) :
    Tracks limits streams connection ↔
      ∃ origin taken messages behind,
        connection.Surrounds kind limits streams origin messages behind ∧
          behind kind = taken ++ connection.incoming kind ∧
          Pass.Tracks kind (limits.of kind) origin taken (connection.flow kind pass) := by
  simp only [Tracks, stage]

namespace Tracks

theorem relays (tracks : Tracks limits streams connection) :
    ∃ messages behind parts, connection.Relays limits streams messages behind parts := by
  cases stage : connection.stage with
  | ended =>
      simp only [Tracks, stage] at tracks
      exact tracks
  | passing kind pass deadline =>
      rcases (tracks_iff_of_passing stage).mp tracks with
        ⟨origin, taken, messages, behind, surrounds, reads, tracks⟩
      have part := tracks.isPart (connection.incoming kind)
      rw [← reads] at part
      rcases part with ⟨written, output, isPart⟩
      cases kind with
      | request =>
          exact surrounds.relays_request rfl isPart output (Or.inl rfl) (List.append_nil _).symm
      | response => exact surrounds.relays_response rfl rfl (Or.inl isPart) output

theorem settle (tracks : Tracks limits streams connection) (now : Nat) :
    Tracks limits streams (connection.settle limits now).1 := by
  revert tracks
  apply settle_induction (motive := fun connection settled =>
    Tracks limits streams connection → Tracks limits streams settled.1)
  case ended =>
    intro connection _ tracks
    exact tracks
  case waits =>
    intro connection kind pass deadline flow stage fed awaited tracks
    rcases (tracks_iff_of_passing stage).mp tracks with
      ⟨origin, taken, messages, behind, surrounds, reads, tracks⟩
    have reached := tracks.feed (connection.incoming kind)
    rw [fed, ← reads] at reached
    apply (surrounds.progressed [] flow.sink).await _ reached (outgoing_progressed _ _ _ _)
    simp only [incoming_progressed, List.append_nil]
  case fails =>
    intro connection kind pass deadline abandoned rest stage fed failed tracks
    rcases (tracks_iff_of_passing stage).mp tracks with
      ⟨origin, taken, messages, behind, surrounds, reads, tracks⟩
    have reached := tracks.feed (connection.incoming kind)
    simp only [fed] at reached
    rcases reached with ⟨seen, isPrefix, leaves⟩
    apply (surrounds.progressed rest abandoned.sink).fail _ leaves
    simp only [reads]
    exact (List.prefix_append_right_inj taken).mpr isPrefix
  case turns =>
    intro connection kind pass deadline delivered rest stage fed turned settled ih tracks
    apply ih
    rcases (tracks_iff_of_passing stage).mp tracks with
      ⟨origin, taken, messages, behind, surrounds, reads, tracks⟩
    have reached := tracks.feed (connection.incoming kind)
    simp only [fed] at reached
    rcases reached with ⟨consumed, incoming, delivers⟩
    apply (surrounds.progressed rest delivered.sink).turn _ delivers
      (outgoing_progressed _ _ _ _) now
    simp only [incoming_progressed, reads, incoming, List.append_assoc]

theorem interrupt (tracks : Tracks limits streams connection) :
    Tracks limits streams connection.interrupt.1 := by
  cases stage : connection.stage with
  | ended =>
      simp only [Connection.interrupt, stage]
      exact tracks
  | passing kind pass deadline =>
      rcases (tracks_iff_of_passing stage).mp tracks with
        ⟨origin, taken, messages, behind, surrounds, reads, tracks⟩
      simp only [Connection.interrupt, stage]
      apply surrounds.fail _ (tracks.leaves (Pass.isAt_abandon_interrupted _))
      simp only [reads]
      exact List.prefix_append _ _

end Tracks

namespace Relays

variable {parts : Kind → Bytes}

theorem congr (relays : connection.Relays limits streams messages behind parts)
    (stage : after.stage = connection.stage) (exchanges : after.exchanges = connection.exchanges)
    (output : ∀ kind, (after.outgoing kind).output = (connection.outgoing kind).output) :
    after.Relays limits streams messages behind parts where
  number kind := (relays.number kind).trans exchanges.symm
  successive := relays.successive
  output kind := (output kind).trans (relays.output kind)
  request := relays.request
  response := by
    simp only [hasEnded, stage]
    exact relays.response

theorem append {extra : Kind → Bytes}
    (relays : connection.Relays limits streams messages behind parts) :
    connection.Relays limits (fun kind => streams kind ++ extra kind) messages
      (fun kind => behind kind ++ extra kind) parts where
  number := relays.number
  successive kind := (relays.successive kind).append _
  output := relays.output
  request := relays.request.append _
  response := relays.response.append

end Relays

theorem Surrounds.append {extra : Kind → Bytes}
    (surrounds : Surrounds kind limits streams origin messages behind connection)
    (exchanges : after.exchanges = connection.exchanges)
    (incoming : ∀ kind, after.incoming kind = connection.incoming kind ++ extra kind)
    (outgoing : ∀ kind, after.outgoing kind = connection.outgoing kind) :
    Surrounds kind limits (fun kind => streams kind ++ extra kind) origin messages
      (fun kind => behind kind ++ extra kind) after where
  requests := by
    simp only [exchanges]
    exact surrounds.requests
  responses := by
    simp only [exchanges]
    exact surrounds.responses
  successive kind := (surrounds.successive kind).append _
  unread := by rw [incoming, surrounds.unread]
  wrote := surrounds.wrote
  got := by
    simp only [outgoing]
    exact surrounds.got
  takes := surrounds.takes
  gets := by
    simp only [outgoing]
    exact surrounds.gets

/-- More bytes come in, and nothing else changes. -/
theorem Tracks.append {extra : Kind → Bytes} (tracks : Tracks limits streams connection)
    (stage : after.stage = connection.stage) (exchanges : after.exchanges = connection.exchanges)
    (incoming : ∀ kind, after.incoming kind = connection.incoming kind ++ extra kind)
    (outgoing : ∀ kind, after.outgoing kind = connection.outgoing kind) :
    Tracks limits (fun kind => streams kind ++ extra kind) after := by
  cases reached : connection.stage with
  | ended =>
      simp only [Tracks, reached] at tracks
      simp only [Tracks, stage, reached]
      rcases tracks with ⟨messages, behind, parts, relays⟩
      have output : ∀ kind, (after.outgoing kind).output = (connection.outgoing kind).output := by
        intro kind
        simp only [outgoing]
      exact ⟨messages, _, parts, (relays.congr stage exchanges output).append⟩
  | passing kind pass deadline =>
      rcases (tracks_iff_of_passing reached).mp tracks with
        ⟨origin, taken, messages, behind, surrounds, reads, tracks⟩
      apply (tracks_iff_of_passing (stage.trans reached)).mpr
      refine ⟨origin, taken, messages, _, surrounds.append exchanges incoming outgoing, ?_, ?_⟩
      · simp only [incoming, reads, List.append_assoc]
      · have same := outgoing kind
        simp only [Connection.outgoing] at same
        simp only [Connection.flow, same]
        exact tracks

theorem output_outgoing_leave (connection : Connection) (side : Side) (kind : Kind) :
    ((connection.modifyPeer side (·.leave)).outgoing kind).output =
      (connection.outgoing kind).output := by
  cases side <;> cases kind <;> rfl

theorem incoming_leave (connection : Connection) (side : Side) (kind : Kind) :
    (connection.modifyPeer side (·.leave)).incoming kind = connection.incoming kind := by
  cases side <;> cases kind <;> rfl

/-- A peer goes away. What it got stays as it was, and it gets nothing more. -/
theorem Tracks.leave (tracks : Tracks limits streams connection) (side : Side) :
    Tracks limits streams (connection.modifyPeer side (·.leave)) := by
  cases stage : connection.stage with
  | ended =>
      simp only [Tracks, stage] at tracks
      rcases tracks with ⟨messages, behind, parts, relays⟩
      simp only [Tracks, show (connection.modifyPeer side (·.leave)).stage = .ended from stage]
      exact ⟨messages, behind, parts, relays.congr rfl rfl (output_outgoing_leave _ _)⟩
  | passing kind pass deadline =>
      rcases (tracks_iff_of_passing stage).mp tracks with
        ⟨origin, taken, messages, behind, surrounds, reads, tracks⟩
      have stageAfter : (connection.modifyPeer side (·.leave)).stage =
          .passing kind pass deadline := stage
      apply (tracks_iff_of_passing stageAfter).mpr
      have readsAfter : behind kind =
          taken ++ (connection.modifyPeer side (·.leave)).incoming kind := by
        simp only [incoming_leave, reads]
      rcases kind.isDestination_or side with rfl | rfl
      · -- The pass goes on as if its sink had been full from the beginning.
        refine ⟨origin.hangUp, taken, messages, behind, ?_, readsAfter, ?_⟩
        · cases kind with
          | request => exact { surrounds with takes := Sink.takesAllOrNothing_hangUp origin }
          | response => exact { surrounds with takes := Sink.takesAllOrNothing_hangUp origin }
        · cases kind with
          | request => exact tracks.hangUp
          | response => exact tracks.hangUp
      · refine ⟨origin, taken, messages, behind, ?_, readsAfter, ?_⟩
        · cases kind with
          | request => exact { surrounds with gets := Sink.takesAllOrNothing_hangUp _ }
          | response => exact { surrounds with gets := Sink.takesAllOrNothing_hangUp _ }
        · cases kind with
          | request => exact tracks
          | response => exact tracks

end Connection

end HttpRelay
