import HttpRelay.Proofs.Session.Counting
import HttpRelay.Proofs.Session.Eagerness
import HttpRelay.Proofs.Session.Isolation
import HttpRelay.Proofs.Session.Ordering

/-!
# The order of delivery

What a handler has done depends on what its peers have sent so far, and not on the order in
which it came, nor on the pieces that it came in (`resembles_run`). Whatever is delivered, the
connection stands as if its handler had acted only once, at the end (`IsPending`).

This takes some time for the header of a response. A handler that is given none at all has to
find the response there when it turns to it, so that the order matters
(`not_agreesWith_run_of_no_time`).
-/

namespace HttpRelay

namespace Arrival

def nothing : Arrival :=
  ⟨fun _ => [], fun _ => false⟩

def append (first second : Arrival) : Arrival :=
  ⟨fun side => first.bytes side ++ second.bytes side,
    fun side => first.isLast side || second.isLast side⟩

end Arrival

namespace Peer

@[simp]
theorem extend_nil (peer : Peer) : peer.extend [] false = peer := by
  simp [extend]

theorem send_eq_extend (bytes : Bytes) (peer : Peer) :
    peer.send bytes = peer.extend (if peer.isClosed = false then bytes else []) false := by
  rcases peer with ⟨inbox, isClosed, isGone, sink⟩
  cases isClosed <;> simp [send, extend]

theorem close_eq_extend (peer : Peer) : peer.close = peer.extend [] true := by
  simp [close, extend]

end Peer

namespace Connection

variable {connection first second : Connection}

theorem extend_nothing (connection : Connection) : connection.extend .nothing = connection := by
  simp [extend, Arrival.nothing]

theorem extend_append (connection : Connection) (first second : Arrival) :
    connection.extend (first.append second) = (connection.extend first).extend second := by
  simp [extend, Peer.extend, Arrival.append, Bool.or_assoc]

theorem extend_congr {first second : Arrival} (bytes : ∀ side, first.bytes side = second.bytes side)
    (isClosed : ∀ side, (connection.extend first).isClosed side =
      (connection.extend second).isClosed side) :
    connection.extend first = connection.extend second := by
  have client := isClosed .client
  have target := isClosed .target
  simp only [isClosed_extend] at client target
  simp only [Connection.isClosed, Sides.get] at client target
  simp only [extend, Peer.extend, bytes, client, target]

theorem Resembles.guard?_eq (resembles : Resembles first second) :
    first.guard? = second.guard? := by
  cases resembles with
  | same => rfl
  | ended firstEnded secondEnded exchanges output =>
      simp only [guard?, firstEnded, secondEnded]

theorem Resembles.change (resembles : Resembles first second) (name : String)
    (event : Session.Event) :
    Resembles (event.change name first) (event.change name second) := by
  cases resembles with
  | same => exact .same _
  | ended firstEnded secondEnded exchanges output =>
      apply Resembles.ended
      · exact (event.stage_change name first).trans firstEnded
      · exact (event.stage_change name second).trans secondEnded
      · simp only [event.exchanges_change, exchanges]
      · intro side
        simp only [event.output_change, output]

end Connection

namespace Session

namespace Event

/-- Something comes from a peer, or a connection is opened. -/
def isDelivery : Event → Bool
  | .opened _ | .sent .. | .closed .. => true
  | .dropped .. | .elapsed _ | .shutdown => false

/-- What an event delivers. -/
def arrival (name : String) (event : Event) (connection : Connection) : Arrival :=
  ⟨event.adds name connection, fun side => event = .closed name side⟩

variable {name : String} {event : Event}

theorem change_eq_extend (delivers : event.isDelivery = true) (connection : Connection) :
    event.change name connection = connection.extend (event.arrival name connection) := by
  cases event with
  | opened other => simp [change, Connection.extend, arrival, adds]
  | sent other origin bytes =>
      by_cases same : other = name
      · cases origin <;>
          simp [same, change, Connection.modifyPeer, Sides.modify, Peer.send_eq_extend,
            Connection.extend, arrival, adds, Connection.isClosed, Sides.get]
      · simp [same, change, Connection.extend, arrival, adds]
  | closed other origin =>
      by_cases same : other = name
      · cases origin <;>
          simp [same, change, Connection.modifyPeer, Sides.modify, Peer.close_eq_extend,
            Connection.extend, arrival, adds]
      · simp [same, change, Connection.extend, arrival, adds]
  | dropped | elapsed | shutdown => cases delivers

theorem change_extend (delivers : event.isDelivery = true) (base : Connection)
    (arrival : Arrival) : event.change name (base.extend arrival) =
      base.extend (arrival.append (event.arrival name (base.extend arrival))) := by
  rw [Connection.extend_append, change_eq_extend delivers]

theorem arrival_congr {first second : Connection}
    (same : ∀ side, first.isClosed side = second.isClosed side) :
    event.arrival name first = event.arrival name second := by
  have adds : event.adds name first = event.adds name second := by
    funext side
    cases event <;> simp only [Event.adds, same]
  simp only [arrival, adds]

theorem fits_arrival (name : String) (event : Event) (connection : Connection) :
    connection.Fits (event.arrival name connection) := by
  intro side closed
  cases event with
  | sent other origin bytes => simp [arrival, adds, closed]
  | opened | closed | dropped | elapsed | shutdown => rfl

end Event

end Session

theorem Pass.Tracks.lineWithinTaken {kind : Kind} {limits : Limits} {origin : Sink}
    {taken : Bytes} {flow : Flow Pass} (tracks : Pass.Tracks kind limits origin taken flow) :
    Pass.LineWithinTaken flow := by
  rcases flow with ⟨receiver | ⟨header, body⟩, sink⟩
  · exact Receiver.steady_scanner.valid_scan (Nat.zero_le _) tracks.2
  · trivial

theorem Connection.Tracks.isInTime {limits : LimitsByKind} {streams : Kind → Bytes} {now : Nat}
    {connection : Connection} (tracks : connection.Tracks limits streams)
    (rests : connection.Rests now) : connection.IsInTime now := by
  constructor
  · intro kind pass deadline stage
    rcases (tracks_iff_of_passing stage).mp tracks with ⟨_, _, _, _, _, _, passTracks⟩
    exact passTracks.lineWithinTaken
  · intro kind pass deadline stage
    exact (rests stage).2.2.2

namespace Session.Surroundings

variable {surroundings : Surroundings} {connection first second : Connection} {name : String}
  {event : Event}

section Rest

/-- A handler is not there any more, or has done what it can do. -/
structure IsAtRest (surroundings : Surroundings) (connection : Connection) : Prop where
  stopped : surroundings.isStopping = true → connection.stage = .ended
  rests : connection.Rests surroundings.now
  lasts : connection.stage ≠ .ended →
    0 < (surroundings.limits.of .request).receiveTimeout

theorem IsAtRest.of_ended (ended : connection.stage = .ended) :
    surroundings.IsAtRest connection :=
  ⟨fun _ => ended, Connection.rests_of_ended ended, fun goesOn => absurd ended goesOn⟩

theorem stage_proceed_of_stopping (isStopping : surroundings.isStopping = true)
    (connection : Connection) : (surroundings.proceed connection).stage = .ended := by
  simp only [proceed, isStopping, if_true, Connection.interrupt]
  split
  · rename_i ended
    exact ended
  · exact Connection.stage_fail _ _ _

theorem proceed_of_not_stopping (goesOn : surroundings.isStopping = false)
    (connection : Connection) : surroundings.proceed connection =
      (connection.settle surroundings.limits surroundings.now).1 := by
  simp only [proceed, goesOn, Bool.false_eq_true, if_false]

theorem isAtRest_proceed
    (lasts : (surroundings.proceed connection).stage ≠ .ended →
      0 < (surroundings.limits.of .request).receiveTimeout) :
    surroundings.IsAtRest (surroundings.proceed connection) := by
  cases isStopping : surroundings.isStopping with
  | true => exact .of_ended (stage_proceed_of_stopping isStopping connection)
  | false =>
      refine ⟨?_, ?_, lasts⟩
      · intro impossible
        rw [isStopping] at impossible
        cases impossible
      · rw [proceed_of_not_stopping isStopping]
        exact connection.rests_settle _ _

/-- A handler that has no time for a request gives up at once. -/
theorem isAtRest_opened (surroundings : Surroundings) :
    surroundings.IsAtRest surroundings.opened := by
  apply isAtRest_proceed
  intro goesOn
  apply Nat.pos_of_ne_zero
  intro noTime
  apply goesOn
  cases isStopping : surroundings.isStopping with
  | true => exact stage_proceed_of_stopping isStopping _
  | false =>
      rw [proceed_of_not_stopping isStopping, Connection.settle_of_more rfl rfl]
      apply Connection.stage_await_of_late
      · exact Nat.le_of_eq (congrArg (surroundings.now + ·) noTime)
      · rfl

theorem IsAtRest.proceed_change (atRest : surroundings.IsAtRest connection)
    (name : String) (event : Event) :
    (surroundings.after event).IsAtRest
      ((surroundings.after event).proceed (event.change name connection)) := by
  apply isAtRest_proceed
  intro goesOn
  rw [surroundings.limits_after event]
  apply atRest.lasts
  intro ended
  apply goesOn
  have stays := (event.stage_change name connection).trans ended
  rw [proceed_of_ended stays]
  exact stays

theorem IsAtRest.proceed_eq (atRest : surroundings.IsAtRest connection) :
    surroundings.proceed connection = connection := by
  cases isStopping : surroundings.isStopping with
  | true => exact proceed_of_ended (atRest.stopped isStopping)
  | false =>
      rw [proceed_of_not_stopping isStopping]
      exact Connection.settle_of_rests atRest.rests _

end Rest

section Eager

theorem after_of_isDelivery (delivers : event.isDelivery = true) :
    surroundings.after event = surroundings := by
  cases event with
  | opened | sent | closed => rfl
  | dropped | elapsed | shutdown => cases delivers

/-- A handler that has not returned has some time for every header. -/
structure IsReady (surroundings : Surroundings) (connection : Connection) : Prop where
  goesOn : surroundings.isStopping = false
  lasts : ∀ kind, 0 < (surroundings.limits.of kind).receiveTimeout
  inTime : connection.IsInTime surroundings.now

theorem resembles_proceed_extend {arrival : Arrival}
    (ready : connection.stage ≠ .ended → surroundings.IsReady connection)
    (fits : connection.Fits arrival) :
    Connection.Resembles (surroundings.proceed ((surroundings.proceed connection).extend arrival))
      (surroundings.proceed (connection.extend arrival)) := by
  by_cases ended : connection.stage = .ended
  · rw [proceed_of_ended ended]
    exact .same _
  · rcases ready ended with ⟨goesOn, lasts, inTime⟩
    simp only [proceed_of_not_stopping goesOn]
    exact connection.resembles_settle_extend lasts inTime fits

theorem IsReady.extend (ready : surroundings.IsReady connection) (arrival : Arrival) :
    surroundings.IsReady (connection.extend arrival) where
  goesOn := ready.goesOn
  lasts := ready.lasts
  inTime := by
    constructor
    · intro kind pass deadline stage
      rw [Connection.flow_extend]
      exact ready.inTime.within stage
    · intro kind pass deadline stage
      exact ready.inTime.inTime stage

theorem resembles_proceed (resembles : Connection.Resembles first second) :
    Connection.Resembles (surroundings.proceed first) (surroundings.proceed second) := by
  cases resembles with
  | same => exact .same _
  | ended firstEnded secondEnded exchanges output =>
      rw [proceed_of_ended firstEnded, proceed_of_ended secondEnded]
      exact .ended firstEnded secondEnded exchanges output

/-- What is delivered after a handler acted may as well have been delivered before. -/
theorem resembles_proceed_change
    (ready : connection.stage ≠ .ended → surroundings.IsReady connection)
    (delivers : event.isDelivery = true) :
    Connection.Resembles
      (surroundings.proceed (event.change name (surroundings.proceed connection)))
      (surroundings.proceed (event.change name connection)) := by
  have sameArrival : event.arrival name (surroundings.proceed connection) =
      event.arrival name connection := by
    apply Event.arrival_congr
    exact isClosed_proceed connection
  simp only [Event.change_eq_extend delivers, sameArrival]
  exact resembles_proceed_extend ready (Event.fits_arrival name event connection)

/-- What a delivery makes of a connection resembles what it would have made of it before. -/
theorem resembles_deliver
    (resembles : Connection.Resembles first (surroundings.proceed second))
    (ready : second.stage ≠ .ended → surroundings.IsReady second)
    (delivers : event.isDelivery = true) :
    Connection.Resembles
      (if event.wakes name then (surroundings.after event).proceed (event.change name first)
        else first)
      (surroundings.proceed (event.change name second)) := by
  rw [after_of_isDelivery delivers]
  split
  · exact (resembles_proceed (resembles.change name event)).trans
      (resembles_proceed_change ready delivers)
  · rename_i asleep
    rw [Event.change_of_not_wakes (eq_false_of_ne_true asleep)]
    exact resembles

end Eager

/-- What became of the connection of a name since it was `base`, with the given bytes sent
before: it stands as if all that was delivered since had come at once. -/
def IsPending (surroundings : Surroundings) (base : Connection) (sent : Side → Bytes)
    (wire : Side → Wire) : Option Connection → Prop
  | none => (∀ side, wire side = .absent) ∧ base = surroundings.opened ∧ ∀ side, sent side = []
  | some connection =>
      ∃ arrival, (∀ side, wire side =
          .of ((base.extend arrival).isClosed side) (sent side ++ arrival.bytes side)) ∧
        connection.Resembles (surroundings.proceed (base.extend arrival))

variable {base : Connection} {sent : Side → Bytes} {wire : Side → Wire}

theorem IsPending.refl (atRest : surroundings.IsAtRest base)
    (wires : ∀ side, wire side = .of (base.isClosed side) (sent side)) :
    surroundings.IsPending base sent wire (some base) := by
  refine ⟨.nothing, ?_, ?_⟩
  · intro side
    simp only [Connection.extend_nothing, wires]
    simp only [Arrival.nothing, List.append_nil]
  · simp only [Connection.extend_nothing, atRest.proceed_eq]
    exact .same _

theorem IsPending.react {connection? : Option Connection}
    (pending : surroundings.IsPending base sent wire connection?)
    (ready : base.stage ≠ .ended → surroundings.IsReady base)
    (name : String) (delivers : event.isDelivery = true) :
    surroundings.IsPending base sent (fun side => (wire side).accept name side event)
      (surroundings.react name event connection?) := by
  cases connection? with
  | none =>
      rcases pending with ⟨absent, isOpened, nothingSent⟩
      by_cases isOpening : event = .opened name
      · subst event
        simp only [Surroundings.react, if_true, ← isOpened]
        apply IsPending.refl
        · rw [isOpened]
          exact isAtRest_opened surroundings
        · intro side
          simp only [absent side, nothingSent side, isOpened, Surroundings.opened,
            isClosed_proceed, Connection.isClosed_start, Wire.accept_absent]
      · simp only [Surroundings.react, if_neg isOpening]
        refine ⟨?_, isOpened, nothingSent⟩
        intro side
        exact Wire.accept_eq_absent_iff.mpr ⟨absent side, isOpening⟩
  | some connection =>
      rcases pending with ⟨arrival, wires, resembles⟩
      refine ⟨arrival.append (event.arrival name (base.extend arrival)), ?_, ?_⟩
      · intro side
        simp only [wires, event.wire_change, Event.change_extend delivers, Arrival.append,
          Event.arrival, List.append_assoc]
      · rw [← Event.change_extend delivers]
        apply resembles_deliver resembles _ delivers
        intro goesOn
        exact (ready goesOn).extend arrival

theorem IsPending.resembles {first? second? : Option Connection}
    (first : surroundings.IsPending base sent wire first?)
    (second : surroundings.IsPending base sent wire second?) :
    Option.Rel Connection.Resembles first? second? := by
  cases first? with
  | none =>
      cases second? with
      | none => exact .none
      | some connection =>
          rcases second with ⟨arrival, wires, _⟩
          exact absurd ((first.1 .client).symm.trans (wires .client)) Wire.absent_ne_of
  | some connection =>
      rcases first with ⟨arrival, wires, resembles⟩
      cases second? with
      | none => exact absurd ((second.1 .client).symm.trans (wires .client)) Wire.absent_ne_of
      | some other =>
          rcases second with ⟨otherArrival, otherWires, otherResembles⟩
          have same : base.extend arrival = base.extend otherArrival := by
            have delivered := fun side => Wire.of_inj ((wires side).symm.trans (otherWires side))
            apply Connection.extend_congr
            · intro side
              exact List.append_cancel_left (delivered side).2
            · intro side
              exact (delivered side).1
          rw [← same] at otherResembles
          exact .some (resembles.trans otherResembles.symm)

end Session.Surroundings

namespace Session

variable {limits : LimitsByKind} {name : String} {events : List Event}

theorem isAtRest_run {connection : Connection}
    (found : (run limits events).connection? name = some connection) :
    (run limits events).surroundings.IsAtRest connection := by
  induction events using List.reverseRecOn generalizing connection with
  | nil => cases found
  | append_singleton events event ih =>
      rw [connection?_run_concat] at found
      rw [run_concat, surroundings_step]
      rcases Surroundings.opened_or_continued_of_react found with
        ⟨_, rfl, rfl⟩ | ⟨earlier, before, rfl | ⟨unmoved, rfl⟩⟩
      · exact Surroundings.isAtRest_opened _
      · exact (ih before).proceed_change name event
      · rw [unmoved]
        exact ih before

theorem Surroundings.tracks_opened (surroundings : Surroundings) :
    surroundings.opened.Tracks surroundings.limits fun _ => [] :=
  (Connection.tracks_start surroundings.limits surroundings.now).proceed

theorem Surroundings.IsAtRest.isReady {surroundings : Surroundings} {connection : Connection}
    {streams : Kind → Bytes} (atRest : surroundings.IsAtRest connection)
    (tracks : connection.Tracks surroundings.limits streams)
    (timely : 0 < surroundings.limits.response.receiveTimeout)
    (goesOn : connection.stage ≠ .ended) : surroundings.IsReady connection where
  goesOn := by
    cases isStopping : surroundings.isStopping with
    | true => exact absurd (atRest.stopped isStopping) goesOn
    | false => rfl
  lasts
    | .request => atRest.lasts goesOn
    | .response => timely
  inTime := tracks.isInTime atRest.rests

/-- A connection, or the one that would be opened, with what was sent on its wires. -/
theorem exists_isPending (limits : LimitsByKind) (timely : 0 < limits.response.receiveTimeout)
    (events : List Event) (name : String) :
    ∃ base sent, (base.stage ≠ .ended → (run limits events).surroundings.IsReady base) ∧
      (run limits events).surroundings.IsPending base sent
        (fun side => wireAfter name side events) ((run limits events).connection? name) := by
  have sameLimits : (run limits events).surroundings.limits = limits := limits_run limits events
  rw [← sameLimits] at timely
  have isKnown := isKnown_run limits events name
  cases found : (run limits events).connection? name with
  | none =>
      simp only [found] at isKnown
      refine ⟨(run limits events).surroundings.opened, fun _ => [], ?_, isKnown, rfl, ?_⟩
      · exact (Surroundings.isAtRest_opened _).isReady (Surroundings.tracks_opened _) timely
      · intro side
        rfl
  | some connection =>
      simp only [found] at isKnown
      rcases isKnown with ⟨sent, follows⟩
      have tracks := follows.tracks
      rw [← sameLimits] at tracks
      refine ⟨connection, sent, (isAtRest_run found).isReady tracks timely, ?_⟩
      exact Surroundings.IsPending.refl (isAtRest_run found) follows.wires

theorem surroundings_run_append (limits : LimitsByKind) (events : List Event)
    {deliveries : List Event} (deliver : ∀ event ∈ deliveries, event.isDelivery = true) :
    (run limits (events ++ deliveries)).surroundings = (run limits events).surroundings := by
  induction deliveries using List.reverseRecOn with
  | nil => rw [List.append_nil]
  | append_singleton deliveries event ih =>
      have before := ih fun event isIn => deliver event (List.mem_append_left _ isIn)
      simp only [← List.append_assoc, run_concat, surroundings_step, before]
      exact Surroundings.after_of_isDelivery (deliver event (by simp))

theorem isPending_run {base : Connection} {sent : Side → Bytes}
    (ready : base.stage ≠ .ended → (run limits events).surroundings.IsReady base)
    (pending : (run limits events).surroundings.IsPending base sent
      (fun side => wireAfter name side events) ((run limits events).connection? name))
    {deliveries : List Event} (deliver : ∀ event ∈ deliveries, event.isDelivery = true) :
    (run limits events).surroundings.IsPending base sent
      (fun side => wireAfter name side (events ++ deliveries))
      ((run limits (events ++ deliveries)).connection? name) := by
  induction deliveries using List.reverseRecOn with
  | nil =>
      rw [List.append_nil]
      exact pending
  | append_singleton deliveries event ih =>
      have earlier : ∀ event ∈ deliveries, event.isDelivery = true := by
        intro event isIn
        exact deliver event (List.mem_append_left _ isIn)
      simp only [← List.append_assoc, connection?_run_concat, wireAfter_concat,
        surroundings_run_append limits events earlier]
      exact (ih earlier).react ready name (deliver event (by simp))

theorem resembles_run (limits : LimitsByKind) (timely : 0 < limits.response.receiveTimeout)
    (events : List Event) {first second : List Event}
    (firstDelivers : ∀ event ∈ first, event.isDelivery = true)
    (secondDelivers : ∀ event ∈ second, event.isDelivery = true)
    (sameWires : ∀ side,
      wireAfter name side (events ++ first) = wireAfter name side (events ++ second)) :
    Option.Rel Connection.Resembles ((run limits (events ++ first)).connection? name)
      ((run limits (events ++ second)).connection? name) := by
  rcases exists_isPending limits timely events name with ⟨base, sent, ready, pending⟩
  have afterFirst := isPending_run ready pending firstDelivers
  have afterSecond := isPending_run ready pending secondDelivers
  simp only [← sameWires] at afterSecond
  exact afterFirst.resembles afterSecond

end Session

/-- The peers of two connections got the same, and their handlers are equally far. -/
structure Connection.AgreesWith (first second : Connection) : Prop where
  output : ∀ side, first.output side = second.output side
  hasEnded : first.hasEnded = second.hasEnded
  exchanges : first.exchanges = second.exchanges

theorem Connection.Resembles.agreesWith {first second : Connection}
    (resembles : Resembles first second) : first.AgreesWith second := by
  cases resembles with
  | same => exact ⟨fun _ => rfl, rfl, rfl⟩
  | ended firstEnded secondEnded exchanges output =>
      refine ⟨output, ?_, exchanges⟩
      simp only [hasEnded, firstEnded, secondEnded]

namespace Session

/-- What the peers of a connection got, and how far its handler is, depends only on what was
sent in all. -/
theorem agreesWith_run (limits : LimitsByKind) (timely : 0 < limits.response.receiveTimeout)
    (events first second : List Event)
    (firstDelivers : ∀ event ∈ first, event.isDelivery = true)
    (secondDelivers : ∀ event ∈ second, event.isDelivery = true) :
    (∀ name,
      (∀ side, wireAfter name side (events ++ first) = wireAfter name side (events ++ second)) →
        Option.Rel Connection.AgreesWith ((run limits (events ++ first)).connection? name)
          ((run limits (events ++ second)).connection? name)) ∧
    ((∀ name side,
      wireAfter name side (events ++ first) = wireAfter name side (events ++ second)) →
        (run limits (events ++ first)).roster.tracker.active =
            (run limits (events ++ second)).roster.tracker.active ∧
          (run limits (events ++ first)).roster.tracker.busy =
            (run limits (events ++ second)).roster.tracker.busy) := by
  constructor
  · intro name sameWires
    have resemble := resembles_run limits timely events firstDelivers secondDelivers sameWires
    generalize (run limits (events ++ first)).connection? name = first? at resemble
    generalize (run limits (events ++ second)).connection? name = second? at resemble
    cases resemble with
    | none => exact .none
    | some resembles => exact .some resembles.agreesWith
  · intro sameWires
    apply (isTallied_run limits _).congr (isTallied_run limits _)
    intro name
    have resemble := resembles_run limits timely events firstDelivers secondDelivers
      (sameWires name)
    generalize (run limits (events ++ first)).connection? name = first? at resemble
    generalize (run limits (events ++ second)).connection? name = second? at resemble
    cases resemble with
    | none => rfl
    | some resembles => exact resembles.guard?_eq

def smallRequest : Bytes :=
  Bytes.ofChars ['G', 'E', 'T', ' ', '/', ' ', 'H', 'T', 'T', 'P', '/', '1', '.', '1', '\n', '\n']

def smallResponse : Bytes :=
  Bytes.ofChars ['H', 'T', 'T', 'P', '/', '1', '.', '1', ' ', '2', '0', '0', '\n', '\n']

/-- Limits with a given time for the header of a response. -/
def smallLimits (time : Nat) : LimitsByKind :=
  ⟨⟨32, 4, 32, 1000⟩, ⟨32, 4, 32, time⟩⟩

def askedFirst : List Event :=
  [.opened "a", .sent "a" .client smallRequest, .sent "a" .target smallResponse]

def answeredFirst : List Event :=
  [.opened "a", .sent "a" .target smallResponse, .sent "a" .client smallRequest]

theorem isDelivery_askedFirst : ∀ event ∈ askedFirst, event.isDelivery = true := by
  decide

theorem isDelivery_answeredFirst : ∀ event ∈ answeredFirst, event.isDelivery = true := by
  decide

theorem wireAfter_askedFirst (name : String) (side : Side) :
    wireAfter name side askedFirst = wireAfter name side answeredFirst := by
  cases side <;> by_cases same : "a" = name <;>
    simp [wireAfter, askedFirst, answeredFirst, Wire.accept, same]

theorem agreesWith_run_askedFirst :
    0 < (smallLimits 1000).response.receiveTimeout ∧
      (∀ name side, wireAfter name side ([] ++ askedFirst) =
        wireAfter name side ([] ++ answeredFirst)) ∧
      (∀ name, Option.Rel Connection.AgreesWith
        ((run (smallLimits 1000) ([] ++ askedFirst)).connection? name)
        ((run (smallLimits 1000) ([] ++ answeredFirst)).connection? name)) ∧
      (run (smallLimits 1000) ([] ++ askedFirst)).roster.tracker.active =
          (run (smallLimits 1000) ([] ++ answeredFirst)).roster.tracker.active ∧
        (run (smallLimits 1000) ([] ++ askedFirst)).roster.tracker.busy =
          (run (smallLimits 1000) ([] ++ answeredFirst)).roster.tracker.busy := by
  have timely : 0 < (smallLimits 1000).response.receiveTimeout := by
    decide
  rcases agreesWith_run (smallLimits 1000) timely [] askedFirst answeredFirst
    isDelivery_askedFirst isDelivery_answeredFirst with ⟨agrees, counts⟩
  refine ⟨timely, wireAfter_askedFirst, ?_, counts wireAfter_askedFirst⟩
  intro name
  exact agrees name (wireAfter_askedFirst name)

section NoTime

variable {limits : LimitsByKind} {name : String} {events : List Event}

theorem connection?_run_opened (limits : LimitsByKind)
    (timely : 0 < limits.request.receiveTimeout) (name : String) :
    (run limits [.opened name]).connection? name = some (.start limits 0) := by
  have rests : (Connection.start limits 0).Rests 0 := by
    intro kind pass deadline stage
    cases stage
    exact ⟨rfl, rfl, rfl, fun _ => Nat.lt_add_of_pos_right timely⟩
  have opened := connection?_run_concat limits [] name (.opened name)
  rw [show (run limits []).connection? name = none from rfl, Surroundings.react, if_pos rfl]
    at opened
  exact opened.trans (congrArg some (Connection.settle_of_rests rests limits))

theorem connection?_run_sent {connection : Connection}
    (found : (run limits events).connection? name = some connection) (side : Side)
    (bytes : Bytes) (deliver : ∀ event ∈ events, event.isDelivery = true) :
    (run limits (events ++ [.sent name side bytes])).connection? name =
      some ((connection.modifyPeer side (·.send bytes)).settle limits 0).1 := by
  have unshifted : (run limits events).surroundings = (start limits).surroundings :=
    surroundings_run_append limits [] deliver
  simp only [connection?_run_concat, found, unshifted, Surroundings.react,
    Event.wakes, beq_self_eq_true, if_true, Event.change]
  rfl

/-- The request comes when the response is not there yet. -/
theorem stage_settle_asked :
    (((Connection.start (smallLimits 0) 0).modifyPeer .client
      (·.send smallRequest)).settle (smallLimits 0) 0).1.stage = .ended := by
  have request : ∃ delivered, Pass.scanner.feed
      ⟨.start .request (smallLimits 0).request, .unbounded⟩ smallRequest = .done delivered [] :=
    ⟨_, rfl⟩
  rcases request with ⟨delivered, request⟩
  rw [Connection.settle_of_done ?stage ?fed]
  case stage => exact rfl
  case fed => exact request
  rw [Connection.settle_of_more ?stage ?fed]
  case stage => exact rfl
  case fed => exact rfl
  exact Connection.stage_await_of_late (Nat.le_refl 0) rfl

/-- The request comes when the response is there. -/
theorem hasEnded_settle_answered :
    ((((Connection.start (smallLimits 0) 0).modifyPeer .target
      (·.send smallResponse)).modifyPeer .client (·.send smallRequest)).settle
        (smallLimits 0) 0).1.hasEnded = false := by
  have request : ∃ delivered, Pass.scanner.feed
      ⟨.start .request (smallLimits 0).request, .unbounded⟩ smallRequest = .done delivered [] :=
    ⟨_, rfl⟩
  have response : ∃ delivered, Pass.scanner.feed
      ⟨.start .response (smallLimits 0).response, .unbounded⟩ smallResponse =
        .done delivered [] :=
    ⟨_, rfl⟩
  rcases request with ⟨asked, request⟩
  rcases response with ⟨answered, response⟩
  rw [Connection.settle_of_done ?stage ?fed]
  case stage => exact rfl
  case fed => exact request
  rw [Connection.settle_of_done ?stage ?fed]
  case stage => exact rfl
  case fed => exact response
  rw [Connection.settle_of_more ?stage ?fed]
  case stage => exact rfl
  case fed => exact rfl
  rw [Connection.await_of_open rfl fun _ => by decide]
  rfl

/-- Without time for the header of a response, an exchange fails or not depending on which
message is there first. -/
theorem not_agreesWith_run_of_no_time :
    (∀ event ∈ askedFirst, event.isDelivery = true) ∧
      (∀ event ∈ answeredFirst, event.isDelivery = true) ∧
      (∀ side, wireAfter "a" side ([] ++ askedFirst) =
        wireAfter "a" side ([] ++ answeredFirst)) ∧
      ¬Option.Rel Connection.AgreesWith
        ((run (smallLimits 0) ([] ++ askedFirst)).connection? "a")
        ((run (smallLimits 0) ([] ++ answeredFirst)).connection? "a") := by
  refine ⟨isDelivery_askedFirst, isDelivery_answeredFirst, wireAfter_askedFirst "a", ?_⟩
  have opened := connection?_run_opened (smallLimits 0) (by decide) "a"
  have asked := connection?_run_sent opened .client smallRequest (by decide)
  have inOrder : (run (smallLimits 0) ([] ++ askedFirst)).connection? "a" = some _ :=
    connection?_run_sent asked .target smallResponse (by decide)
  have waits : ((Connection.start (smallLimits 0) 0).modifyPeer .target
      (·.send smallResponse)).Rests 0 := by
    intro kind pass deadline stage
    cases stage
    exact ⟨rfl, rfl, rfl, fun _ => by decide⟩
  have answered := connection?_run_sent opened .target smallResponse (by decide)
  rw [Connection.settle_of_rests waits] at answered
  have outOfOrder : (run (smallLimits 0) ([] ++ answeredFirst)).connection? "a" = some _ :=
    connection?_run_sent answered .client smallRequest (by decide)
  rw [inOrder, outOfOrder]
  rintro ⟨agrees⟩
  have sameEnd := agrees.hasEnded
  rw [hasEnded_settle_answered, Connection.settle_of_ended (by exact stage_settle_asked)] at sameEnd
  exact Bool.false_ne_true (sameEnd.symm.trans (beq_iff_eq.mpr stage_settle_asked))

end NoTime

end Session

end HttpRelay
