import HttpRelay.Proofs.Session.Counting
import HttpRelay.Proofs.Session.Isolation
import HttpRelay.Proofs.Session.Ordering

/-!
# Draining

Shutdown ends every handler at once, whatever it is doing. A client that has not got the
beginning of a response is told, and nobody gets anything else. Connections that are opened
later are turned away (`drained_run`).

That a client is told depends on what it takes: a peer takes everything until it goes away,
since all that a handler does to it is to write.
-/

namespace HttpRelay

namespace Pass

variable {origin sink : Sink} {header : Header}

/-- Whatever a step of a pass comes to, it has only written. -/
def Step.Grows (origin : Sink) (step : Step) : Prop :=
  step.Holds (fun flow => origin.Grows flow.sink) (fun delivered => origin.Grows delivered.sink)
    (fun abandoned => origin.Grows abandoned.sink)

theorem Step.Grows.of_grows {step : Step} (further : step.Grows sink)
    (grows : origin.Grows sink) : step.Grows origin := by
  cases step with
  | more flow => exact grows.trans further
  | done delivered => exact grows.trans further
  | failed abandoned => exact grows.trans further
  | refused abandoned => exact grows.trans further

theorem grows_ofBodyStep {step : Body.Step} {taken : Bytes} (writes : step.Writes origin taken) :
    (ofBodyStep header step).Grows origin := by
  cases step with
  | more next => exact writes.1
  | done relayed => exact writes.1
  | failed broken => exact writes.1
  | refused broken => exact writes.1

theorem grows_forward (header : Header) (sink : Sink) : (forward header sink).Grows sink := by
  cases wrote : sink.write header.encode with
  | mk written fault =>
      have grows := Sink.grows_of_write wrote
      cases fault with
      | some fault =>
          simp only [forward_of_fault wrote]
          exact grows
      | none =>
          simp only [forward_of_written wrote]
          apply Step.Grows.of_grows _ grows
          exact grows_ofBodyStep (Body.writes_start header.framing written)

theorem grows_accept (flow : Flow Pass) (byte : UInt8) : (accept flow byte).Grows flow.sink := by
  rcases flow with ⟨receiver | ⟨header, body⟩, sink⟩
  · simp only [accept]
    cases receiver.accept byte with
    | more next => exact .refl sink
    | done header => exact grows_forward header sink
    | failed error => exact .refl sink
    | refused error => exact .refl sink
  · exact grows_ofBodyStep (Body.writes_accept (.refl sink) byte)

theorem grows_feed (flow : Flow Pass) (bytes : Bytes) :
    (scanner.feed flow bytes).Holds (fun next => flow.sink.Grows next.sink)
      (fun delivered => flow.sink.Grows delivered.sink)
      (fun abandoned => flow.sink.Grows abandoned.sink) := by
  apply Scanner.feed_holds
  · intro next byte grows
    exact (grows_accept next byte).of_grows grows
  · intro next abandoned grows ended
    rw [(isAt_of_segmentEnd ended).sink]
    exact grows
  · exact .refl _

end Pass

theorem grows_sendStatus (status : Status) (client : Sink) :
    client.Grows (sendStatus status client).1 := by
  cases wrote : client.write status.response with
  | mk written fault =>
      simp only [sendStatus, wrote]
      split <;> exact Sink.grows_of_write wrote

/-- A peer takes everything, and nothing once it is gone. -/
structure Peer.TakesUnlessGone (peer : Peer) : Prop where
  isThere : peer.isGone = false → peer.sink.room = none
  isGone : peer.isGone = true → peer.sink.room = some 0

theorem Peer.TakesUnlessGone.grows {peer : Peer} (takes : peer.TakesUnlessGone) {sink : Sink}
    (grows : peer.sink.Grows sink) : (peer.withSink sink).TakesUnlessGone :=
  ⟨grows.unbounded ∘ takes.isThere, grows.full ∘ takes.isGone⟩

namespace Connection

variable {limits : LimitsByKind} {now : Nat} {connection : Connection}

def TakeUnlessGone (connection : Connection) : Prop :=
  ∀ side, (connection.peers.get side).TakesUnlessGone

namespace TakeUnlessGone

theorem modifyPeer (take : connection.TakeUnlessGone) {side : Side} {change : Peer → Peer}
    (keeps : ∀ peer : Peer, peer.TakesUnlessGone → (change peer).TakesUnlessGone) :
    (connection.modifyPeer side change).TakeUnlessGone := by
  intro other
  by_cases same : other = side
  · subst other
    simp only [Connection.modifyPeer, Sides.get_modify_self]
    exact keeps _ (take side)
  · simp only [Connection.modifyPeer, Sides.get_modify_of_ne _ same]
    exact take other

theorem change (take : connection.TakeUnlessGone) (name : String) (event : Session.Event) :
    (event.change name connection).TakeUnlessGone := by
  cases event with
  | opened | elapsed | shutdown => exact take
  | sent other side bytes =>
      simp only [Session.Event.change]
      split
      · apply take.modifyPeer
        intro peer takes
        simp only [Peer.send]
        split
        · exact takes
        · exact ⟨takes.isThere, takes.isGone⟩
      · exact take
  | closed other side =>
      simp only [Session.Event.change]
      split
      · apply take.modifyPeer
        intro peer takes
        exact ⟨takes.isThere, takes.isGone⟩
      · exact take
  | dropped other side =>
      simp only [Session.Event.change]
      split
      · apply take.modifyPeer
        intro peer takes
        constructor
        · intro isThere
          cases isThere
        · intro _
          rfl
      · exact take

theorem written (take : connection.TakeUnlessGone) {kind : Kind} {sink : Sink}
    (grows : (connection.outgoing kind).Grows sink) :
    (connection.modifyPeer kind.destination (·.withSink sink)).TakeUnlessGone := by
  intro side
  cases kind <;> cases side
  · exact take .client
  · exact (take .target).grows grows
  · exact (take .client).grows grows
  · exact take .target

theorem progressed (take : connection.TakeUnlessGone) {kind : Kind} {sink : Sink}
    (grows : (connection.outgoing kind).Grows sink) (rest : Bytes) :
    (connection.progressed kind rest sink).TakeUnlessGone := by
  have written := take.written grows
  intro side
  have takes := written side
  cases kind <;> cases side <;> exact ⟨takes.isThere, takes.isGone⟩

theorem fail (take : connection.TakeUnlessGone) {kind : Kind} {abandoned : Pass.Abandoned}
    (grows : (connection.outgoing kind).Grows abandoned.sink) :
    (connection.fail kind abandoned).1.TakeUnlessGone := by
  have written := take.written grows
  simp only [Connection.fail]
  split
  · exact written
  · rename_i status _
    have keeps : ∀ peer : Peer, peer.TakesUnlessGone →
        (peer.withSink (sendStatus status peer.sink).1).TakesUnlessGone := by
      intro peer takes
      exact takes.grows (grows_sendStatus status peer.sink)
    exact written.modifyPeer keeps

theorem await (take : connection.TakeUnlessGone) {kind : Kind} {flow : Flow Pass}
    (same : connection.outgoing kind = flow.sink) (deadline : Nat) :
    (connection.await limits now kind flow deadline).1.TakeUnlessGone := by
  have fails : ∀ {abandoned : Pass.Abandoned}, abandoned.IsAt flow →
      (connection.fail kind abandoned).1.TakeUnlessGone := by
    intro abandoned isAt
    apply take.fail
    simp only [same, isAt.sink]
    exact .refl _
  simp only [Connection.await]
  split
  · exact fails (Pass.isAt_cut flow .finished)
  · split
    · rename_i abandoned due
      split at due
      · exact fails (Pass.isAt_of_expired due)
      · cases due
    · exact take

theorem settle (take : connection.TakeUnlessGone) (limits : LimitsByKind) (now : Nat) :
    (connection.settle limits now).1.TakeUnlessGone := by
  revert take
  apply settle_induction (motive := fun connection settled =>
    connection.TakeUnlessGone → settled.1.TakeUnlessGone)
  case ended =>
    intro connection _ take
    exact take
  case waits =>
    intro connection kind pass deadline flow stage fed awaited take
    have grows := Pass.grows_feed (connection.flow kind pass) (connection.incoming kind)
    simp only [fed] at grows
    exact (take.progressed grows []).await (outgoing_progressed _ _ _ _) deadline
  case fails =>
    intro connection kind pass deadline abandoned rest stage fed failed take
    have grows := Pass.grows_feed (connection.flow kind pass) (connection.incoming kind)
    simp only [fed] at grows
    apply (take.progressed grows rest).fail
    simp only [outgoing_progressed]
    exact .refl _
  case turns =>
    intro connection kind pass deadline delivered rest stage fed turned settled ih take
    have grows := Pass.grows_feed (connection.flow kind pass) (connection.incoming kind)
    simp only [fed] at grows
    apply ih
    have progressed := take.progressed grows rest
    cases kind <;> exact progressed

theorem interrupt (take : connection.TakeUnlessGone) :
    connection.interrupt.1.TakeUnlessGone := by
  simp only [Connection.interrupt]
  split
  · exact take
  · apply take.fail
    exact .refl _

end TakeUnlessGone

theorem takeUnlessGone_start (limits : LimitsByKind) (now : Nat) :
    (start limits now).TakeUnlessGone := by
  intro side
  cases side <;> exact ⟨fun _ => rfl, nofun⟩

/-- What a client is told when shutdown comes. -/
def farewell (connection : Connection) : Bytes :=
  if (connection.peers.get .client).isGone then []
  else
    match connection.stage with
    | .passing .response (.relaying ..) _ | .ended => []
    | .passing .. => Status.serviceUnavailable.response

/-- A handler has returned without passing anything on, and its client was told if it had to
be told. -/
structure IsDrained (before after : Connection) : Prop where
  hasEnded : after.hasEnded = true
  exchanges : after.exchanges = before.exchanges
  client : after.output .client = before.output .client ++ before.farewell
  target : after.output .target = before.output .target

/-- A handler that returned without reading anything. -/
structure IsTurnedAway (wire : Side → Wire) (connection : Connection) : Prop where
  hasEnded : connection.hasEnded = true
  exchanges : connection.exchanges = 0
  client : connection.output .client = Status.serviceUnavailable.response
  target : connection.output .target = []
  unread : ∀ side, wire side =
    .of (connection.isClosed side) (connection.peers.get side).inbox

theorem output_told (take : connection.TakeUnlessGone) (status : Status) :
    (sendStatus status (connection.peers.get .client).sink).1.output =
      connection.output .client ++
        if (connection.peers.get .client).isGone then [] else status.response := by
  simp only [output_sendStatus, output, Sink.fitting]
  cases gone : (connection.peers.get .client).isGone with
  | true => simp [(take .client).isGone gone]
  | false => simp [(take .client).isThere gone]

theorem isDrained_interrupt (take : connection.TakeUnlessGone) :
    connection.IsDrained connection.interrupt.1 := by
  cases stage : connection.stage with
  | ended =>
      have told : connection.farewell = [] := by
        simp [farewell, stage]
      simp only [interrupt, stage]
      exact ⟨beq_iff_eq.mpr stage, rfl, by simp [told], rfl⟩
  | passing kind pass deadline =>
      have told := output_told take .serviceUnavailable
      simp only [interrupt, stage]
      cases kind with
      | request =>
          refine ⟨rfl, rfl, ?_, rfl⟩
          simp only [farewell, stage]
          exact told
      | response =>
          cases pass with
          | receiving receiver =>
              refine ⟨rfl, rfl, ?_, rfl⟩
              simp only [farewell, stage]
              exact told
          | relaying header body =>
              refine ⟨rfl, rfl, ?_, rfl⟩
              simp only [farewell, stage, ite_self, List.append_nil]
              rfl

end Connection

namespace Session

variable {limits : LimitsByKind} {name : String}

theorem takeUnlessGone_run {events : List Event} {connection : Connection}
    (found : (run limits events).connection? name = some connection) :
    connection.TakeUnlessGone := by
  apply connection_induction (motive := Connection.TakeUnlessGone) _ _ _ _ found
  · exact Connection.takeUnlessGone_start limits
  · intro event connection take
    exact take.change name event
  · intro now connection take
    exact take.settle limits now
  · intro connection take
    exact take.interrupt

namespace Surroundings

variable {surroundings : Surroundings}

theorem isStopping_after (isStopping : surroundings.isStopping = true) (event : Event) :
    (surroundings.after event).isStopping = true := by
  cases event with
  | shutdown => rfl
  | opened | sent | closed | dropped | elapsed => exact isStopping

end Surroundings

end Session

namespace Connection

variable {before after : Connection}

theorem IsDrained.change (drained : before.IsDrained after) (name : String)
    (event : Session.Event) : before.IsDrained (event.change name after) where
  hasEnded := by
    simp only [Connection.hasEnded, event.stage_change]
    exact drained.hasEnded
  exchanges := (event.exchanges_change name after).trans drained.exchanges
  client := (event.output_change name after .client).trans drained.client
  target := (event.output_change name after .target).trans drained.target

theorem IsTurnedAway.change {wire : Side → Wire} (turnedAway : after.IsTurnedAway wire)
    (name : String) (event : Session.Event) :
    (event.change name after).IsTurnedAway fun side => (wire side).accept name side event where
  hasEnded := by
    simp only [Connection.hasEnded, event.stage_change]
    exact turnedAway.hasEnded
  exchanges := (event.exchanges_change name after).trans turnedAway.exchanges
  client := (event.output_change name after .client).trans turnedAway.client
  target := (event.output_change name after .target).trans turnedAway.target
  unread side := by
    simp only [turnedAway.unread, event.wire_change, event.inbox_change]

theorem isTurnedAway_start (limits : LimitsByKind) (now : Nat) :
    (start limits now).interrupt.1.IsTurnedAway fun _ => .sending [] := by
  refine ⟨rfl, rfl, rfl, rfl, ?_⟩
  intro side
  cases side <;> rfl

/-- What shutdown and all that comes after it make of a connection, if there is one. -/
def Subsides (wire : Side → Wire) : Option Connection → Option Connection → Prop
  | some before, some after => before.IsDrained after
  | none, some late => late.IsTurnedAway wire
  | none, none => ∀ side, wire side = .absent
  | some _, none => False

theorem Subsides.react {wire : Side → Wire} {before after : Option Connection}
    (subsides : Subsides wire before after) {surroundings : Session.Surroundings}
    (isStopping : surroundings.isStopping = true) (name : String) (event : Session.Event) :
    Subsides (fun side => (wire side).accept name side event) before
      (surroundings.react name event after) := by
  cases after with
  | some after =>
      cases before with
      | some before =>
          simp only [Session.Surroundings.react_of_ended (eq_of_beq subsides.hasEnded)]
          exact subsides.change name event
      | none =>
          simp only [Session.Surroundings.react_of_ended (eq_of_beq subsides.hasEnded)]
          exact subsides.change name event
  | none =>
      cases before with
      | some before => exact subsides.elim
      | none =>
          by_cases isOpening : event = .opened name
          · subst event
            simp only [Session.Surroundings.react, if_true, Session.Surroundings.opened,
              Session.Surroundings.proceed, isStopping, subsides _, Wire.accept]
            exact isTurnedAway_start _ _
          · simp only [Session.Surroundings.react, if_neg isOpening]
            intro side
            exact Wire.accept_eq_absent_iff.mpr ⟨subsides side, isOpening⟩

end Connection

namespace Session

variable {limits : LimitsByKind} {name : String}

theorem isStopping_step {session : Session} (isStopping : session.isStopping = true)
    (event : Event) : (session.step event).1.isStopping = true := by
  have stopping : (session.surroundings.after event).isStopping = true :=
    Surroundings.isStopping_after isStopping event
  simp only [← surroundings_step] at stopping
  exact stopping

theorem isStopping_run (limits : LimitsByKind) (events later : List Event) :
    (run limits (events ++ .shutdown :: later)).isStopping = true := by
  induction later using List.reverseRecOn with
  | nil =>
      have shutdown := congrArg Surroundings.isStopping
        (surroundings_step (run limits events) .shutdown)
      simp only [run_concat]
      exact shutdown
  | append_singleton later event ih =>
      rw [← List.cons_append, ← List.append_assoc, run_concat]
      exact isStopping_step ih event

theorem subsides_shutdown (limits : LimitsByKind) (events : List Event) (name : String) :
    Connection.Subsides (fun side => wireAfter name side (events ++ [.shutdown]))
      ((run limits events).connection? name)
      ((run limits (events ++ [.shutdown])).connection? name) := by
  have isKnown := isKnown_run limits events name
  simp only [connection?_run_concat, wireAfter_concat]
  cases found : (run limits events).connection? name with
  | none =>
      intro side
      simp only [found] at isKnown
      exact Wire.accept_eq_absent_iff.mpr ⟨isKnown side, nofun⟩
  | some connection => exact Connection.isDrained_interrupt (takeUnlessGone_run found)

theorem subsides_run (limits : LimitsByKind) (events later : List Event) (name : String) :
    Connection.Subsides (fun side => wireAfter name side (events ++ .shutdown :: later))
      ((run limits events).connection? name)
      ((run limits (events ++ .shutdown :: later)).connection? name) := by
  induction later using List.reverseRecOn with
  | nil => exact subsides_shutdown limits events name
  | append_singleton later event ih =>
      have isStopping := isStopping_run limits events later
      rw [← List.cons_append, ← List.append_assoc]
      simp only [connection?_run_concat, wireAfter_concat]
      exact ih.react isStopping name event

/-- After shutdown all handlers have returned, each after at most one last word to its client,
and no handler does anything more. -/
theorem drained_run (limits : LimitsByKind) (events later : List Event) :
    let stopped := run limits (events ++ .shutdown :: later)
    stopped.roster.tracker.active = 0 ∧ stopped.roster.tracker.busy = 0 ∧
      ∀ name, Connection.Subsides
        (fun side => wireAfter name side (events ++ .shutdown :: later))
        ((run limits events).connection? name) (stopped.connection? name) := by
  intro stopped
  have subsides := subsides_run limits events later
  have counts : stopped.roster.tracker.active = 0 ∧ stopped.roster.tracker.busy = 0 := by
    apply (isTallied_run limits _).counts_of_ended
    intro name connection found
    have subsided := subsides name
    simp only [found] at subsided
    cases before : (run limits events).connection? name with
    | none =>
        simp only [before] at subsided
        exact eq_of_beq subsided.hasEnded
    | some _ =>
        simp only [before] at subsided
        exact eq_of_beq subsided.hasEnded
  exact ⟨counts.1, counts.2, subsides⟩

end Session

end HttpRelay
