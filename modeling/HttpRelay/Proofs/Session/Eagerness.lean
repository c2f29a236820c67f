import HttpRelay.Proofs.Relay.Delivery
import HttpRelay.Proofs.Session.Settling

/-!
# Acting early

A handler acts on what is there and does not wait for more. It loses nothing by that: what it
makes of bytes that come later is what it would have made of all bytes at once, as long as the
time for a header is not up (`resembles_settle_extend`).

Two connections whose handlers have returned may still differ in the bytes that were left
unread. Nobody can see these.
-/

namespace HttpRelay

/-- What comes from the two peers of a connection, and whether it is the last of it. -/
structure Arrival where
  bytes : Side → Bytes
  isLast : Side → Bool

def Peer.extend (bytes : Bytes) (isLast : Bool) (peer : Peer) : Peer :=
  { peer with inbox := peer.inbox ++ bytes, isClosed := peer.isClosed || isLast }

namespace Connection

variable {limits : LimitsByKind} {now deadline : Nat} {connection first second third : Connection}
  {kind : Kind} {pass : Pass} {arrival : Arrival}

def extend (connection : Connection) (arrival : Arrival) : Connection :=
  { connection with
    peers :=
      ⟨connection.peers.client.extend (arrival.bytes .client) (arrival.isLast .client),
        connection.peers.target.extend (arrival.bytes .target) (arrival.isLast .target)⟩ }

/-- Nothing comes from a peer that has stopped sending. -/
def Fits (connection : Connection) (arrival : Arrival) : Prop :=
  ∀ side, connection.isClosed side = true → arrival.bytes side = []

section Extend

theorem incoming_extend (connection : Connection) (arrival : Arrival) (kind : Kind) :
    (connection.extend arrival).incoming kind =
      connection.incoming kind ++ arrival.bytes kind.origin := by
  cases kind <;> rfl

theorem isClosed_extend (connection : Connection) (arrival : Arrival) (side : Side) :
    (connection.extend arrival).isClosed side =
      (connection.isClosed side || arrival.isLast side) := by
  cases side <;> rfl

theorem flow_extend (connection : Connection) (arrival : Arrival) (kind : Kind) (pass : Pass) :
    (connection.extend arrival).flow kind pass = connection.flow kind pass := by
  cases kind <;> rfl

theorem progressed_extend (connection : Connection) (arrival : Arrival) (kind : Kind)
    (rest : Bytes) (sink : Sink) :
    (connection.extend arrival).progressed kind (rest ++ arrival.bytes kind.origin) sink =
      (connection.progressed kind rest sink).extend arrival := by
  cases kind <;> rfl

theorem turn_extend (connection : Connection) (arrival : Arrival) (kind : Kind) :
    ((connection.extend arrival).turn limits now kind).1 =
      (connection.turn limits now kind).1.extend arrival := by
  cases kind <;> rfl

theorem fail_extend (connection : Connection) (arrival : Arrival) (kind : Kind)
    (abandoned : Pass.Abandoned) :
    ((connection.extend arrival).fail kind abandoned).1 =
      (connection.fail kind abandoned).1.extend arrival := by
  simp only [fail]
  split <;> cases kind <;> rfl

theorem output_extend (connection : Connection) (arrival : Arrival) (side : Side) :
    (connection.extend arrival).output side = connection.output side := by
  cases side <;> rfl

end Extend

section Stage

variable (stage : Stage)

theorem fail_stage (abandoned : Pass.Abandoned) :
    ({ connection with stage := stage } : Connection).fail kind abandoned =
      connection.fail kind abandoned :=
  rfl

theorem await_stage (flow : Flow Pass) :
    ({ connection with stage := stage } : Connection).await limits now kind flow deadline =
      connection.await limits now kind flow deadline :=
  rfl

theorem turn_stage :
    ({ connection with stage := stage } : Connection).turn limits now kind =
      connection.turn limits now kind := by
  cases kind <;> rfl

end Stage

section Settled

theorem settle_of_more {flow : Flow Pass} (stage : connection.stage = .passing kind pass deadline)
    (fed : Pass.scanner.feed (connection.flow kind pass) (connection.incoming kind) =
      .more flow) :
    (connection.settle limits now).1 =
      ((connection.progressed kind [] flow.sink).await limits now kind flow deadline).1 := by
  simp only [settle_of_passing stage, fed]

theorem settle_of_failed {abandoned : Pass.Abandoned} {rest : Bytes}
    (stage : connection.stage = .passing kind pass deadline)
    (fed : Pass.scanner.feed (connection.flow kind pass) (connection.incoming kind) =
      .failed abandoned rest) :
    (connection.settle limits now).1 =
      ((connection.progressed kind rest abandoned.sink).fail kind abandoned).1 := by
  simp only [settle_of_passing stage, fed]

theorem settle_of_done {delivered : Pass.Delivered} {rest : Bytes}
    (stage : connection.stage = .passing kind pass deadline)
    (fed : Pass.scanner.feed (connection.flow kind pass) (connection.incoming kind) =
      .done delivered rest) :
    (connection.settle limits now).1 =
      (((connection.progressed kind rest delivered.sink).turn limits now kind).1.settle
        limits now).1 := by
  simp only [settle_of_passing stage, fed]

end Settled

/-- Nobody can tell two connections apart, now or later. -/
inductive Resembles : Connection → Connection → Prop where
  | same (connection : Connection) : Resembles connection connection
  | ended {first second : Connection} (firstEnded : first.stage = .ended)
      (secondEnded : second.stage = .ended) (exchanges : first.exchanges = second.exchanges)
      (output : ∀ side, first.output side = second.output side) : Resembles first second

namespace Resembles

theorem symm (resembles : Resembles first second) : Resembles second first := by
  cases resembles with
  | same => exact .same first
  | ended firstEnded secondEnded exchanges output =>
      exact .ended secondEnded firstEnded exchanges.symm fun side => (output side).symm

theorem trans (resembles : Resembles first second) (further : Resembles second third) :
    Resembles first third := by
  cases resembles with
  | same => exact further
  | ended firstEnded secondEnded exchanges output =>
      cases further with
      | same => exact .ended firstEnded secondEnded exchanges output
      | ended _ thirdEnded moreExchanges moreOutput =>
          exact .ended firstEnded thirdEnded (exchanges.trans moreExchanges)
            fun side => (output side).trans (moreOutput side)

end Resembles

/-- The time for the header that a handler waits for is not up. -/
structure IsInTime (now : Nat) (connection : Connection) : Prop where
  within : ∀ {kind pass deadline}, connection.stage = .passing kind pass deadline →
    Pass.LineWithinTaken (connection.flow kind pass)
  inTime : ∀ {kind pass deadline}, connection.stage = .passing kind pass deadline →
    pass.header? = none → now < deadline

end Connection

namespace Pass

/-- A header that was accepted stays so. -/
theorem header?_ne_none_of_feed {flow next : Flow Pass} {bytes : Bytes}
    (fed : scanner.feed flow bytes = .more next) (accepted : flow.progress.header? ≠ none) :
    next.progress.header? ≠ none := by
  rcases flow with ⟨receiver | ⟨header, body⟩, sink⟩
  · exact absurd rfl accepted
  · have scanned := (Scanner.feed_eq_more_iff.mp fed).1
    simp only [scan_relaying] at scanned
    cases bodyScanned : Body.scanner.scan ⟨body, sink⟩ bytes with
    | more flow =>
        simp only [bodyScanned, ofBodyScan, Scan.more.injEq] at scanned
        subst scanned
        intro noHeader
        cases noHeader
    | done relayed rest => simp [bodyScanned, ofBodyScan] at scanned
    | failed broken rest => simp [bodyScanned, ofBodyScan] at scanned

theorem expired_eq_none {limits : Limits} {flow : Flow Pass}
    (accepted : flow.progress.header? ≠ none) : expired limits flow = none := by
  rcases flow with ⟨receiver | ⟨header, body⟩, sink⟩
  · exact absurd rfl accepted
  · rfl

end Pass

namespace Connection

variable {limits : LimitsByKind} {now deadline : Nat} {connection : Connection} {kind : Kind}
  {arrival : Arrival}

section Steps

theorem stage_fail (connection : Connection) (kind : Kind) (abandoned : Pass.Abandoned) :
    (connection.fail kind abandoned).1.stage = .ended := by
  simp only [fail]
  split <;> rfl

theorem exchanges_fail (connection : Connection) (kind : Kind) (abandoned : Pass.Abandoned) :
    (connection.fail kind abandoned).1.exchanges = connection.exchanges := by
  simp only [fail]
  split <;> rfl

/-- What was left unread does not matter to what the peers got. -/
theorem output_fail_extend (connection : Connection) (arrival : Arrival) (kind : Kind)
    (abandoned : Pass.Abandoned) (rest left : Bytes) (side : Side) :
    (((connection.extend arrival).progressed kind left abandoned.sink).fail kind
        abandoned).1.output side =
      ((connection.progressed kind rest abandoned.sink).fail kind abandoned).1.output side := by
  simp only [fail]
  split <;> cases kind <;> cases side <;> rfl

theorem await_of_closed (closed : connection.isClosed kind.origin = true) (flow : Flow Pass) :
    connection.await limits now kind flow deadline =
      connection.fail kind (Pass.scanner.atCut flow .finished) :=
  if_pos closed

theorem stage_await_of_late (late : deadline ≤ now) {flow : Flow Pass}
    (noHeader : flow.progress.header? = none) :
    (connection.await limits now kind flow deadline).1.stage = .ended := by
  simp only [await, if_pos late]
  split
  · exact stage_fail _ _ _
  · rcases flow with ⟨receiver | ⟨header, body⟩, sink⟩
    · exact stage_fail _ _ _
    · cases noHeader

theorem await_of_open (isOpen : connection.isClosed kind.origin = false) {flow : Flow Pass}
    (inTime : flow.progress.header? = none → now < deadline) :
    connection.await limits now kind flow deadline =
      ({ connection with stage := .passing kind flow.progress deadline }, []) := by
  have unexpired : (if deadline ≤ now then Pass.expired (limits.of kind) flow else none) =
      none := by
    split
    · rename_i late
      apply Pass.expired_eq_none
      intro noHeader
      exact Nat.not_lt_of_le late (inTime noHeader)
    · rfl
  have goesOn : (connection.peers.get kind.origin).isClosed = false := isOpen
  simp only [await, goesOn, Bool.false_eq_true, if_false, unexpired]

/-- A handler that has read everything goes on as if it had not stopped. -/
theorem progressed_waiting (connection : Connection) (arrival : Arrival) (kind : Kind)
    (stage : Stage) (sink further : Sink) (rest : Bytes) :
    (({ connection.progressed kind [] sink with stage := stage } : Connection).extend
        arrival).progressed kind rest further =
      { (connection.extend arrival).progressed kind rest further with stage := stage } := by
  cases kind <;> rfl

theorem IsInTime.turn (lasts : ∀ kind, 0 < (limits.of kind).receiveTimeout)
    (connection : Connection) (kind : Kind) :
    (connection.turn limits now kind).1.IsInTime now := by
  constructor
  · intro next pass deadline stage
    cases kind <;> cases stage <;> exact Nat.zero_le _
  · intro next pass deadline stage _
    cases kind <;> cases stage <;> exact Nat.lt_add_of_pos_right (lasts _)

end Steps

section Eager

variable {pass : Pass}

/-- What a handler does depends on what its pass makes of the bytes that are there. -/
theorem settle_congr {first second : Connection} {other : Pass}
    (firstStage : first.stage = .passing kind pass deadline)
    (secondStage : second.stage = .passing kind other deadline)
    (fed : Pass.scanner.feed (first.flow kind pass) (first.incoming kind) =
      Pass.scanner.feed (second.flow kind other) (second.incoming kind))
    (progressed : ∀ rest sink, first.progressed kind rest sink =
      { second.progressed kind rest sink with stage := first.stage }) :
    (first.settle limits now).1 = (second.settle limits now).1 := by
  cases fedSecond : Pass.scanner.feed (second.flow kind other) (second.incoming kind) with
  | more flow =>
      rw [settle_of_more firstStage (fed.trans fedSecond), settle_of_more secondStage fedSecond,
        progressed, await_stage]
  | failed abandoned rest =>
      rw [settle_of_failed firstStage (fed.trans fedSecond),
        settle_of_failed secondStage fedSecond, progressed, fail_stage]
  | done delivered rest =>
      rw [settle_of_done firstStage (fed.trans fedSecond), settle_of_done secondStage fedSecond,
        progressed, turn_stage]

/-- A handler that has read everything goes on with more as if it had not stopped. -/
theorem settle_extend_of_open {flow : Flow Pass}
    (stage : connection.stage = .passing kind pass deadline)
    (fed : Pass.scanner.feed (connection.flow kind pass) (connection.incoming kind) = .more flow)
    (inTime : flow.progress.header? = none → now < deadline)
    (isOpen : connection.isClosed kind.origin = false) :
    (((connection.settle limits now).1.extend arrival).settle limits now).1 =
      ((connection.extend arrival).settle limits now).1 := by
  have stillOpen : (connection.progressed kind [] flow.sink).isClosed kind.origin = false :=
    (isClosed_progressed _ _ _ _ _).trans isOpen
  rw [settle_of_more stage fed, await_of_open stillOpen inTime]
  apply settle_congr
  case firstStage => exact rfl
  case secondStage => exact stage
  case fed =>
    simp only [flow_extend, incoming_extend, Scanner.feed_append_of_more fed]
    cases kind <;> rfl
  case progressed =>
    intro rest sink
    exact progressed_waiting connection arrival kind _ flow.sink sink rest

theorem settle_extend_of_closed {flow : Flow Pass}
    (stage : connection.stage = .passing kind pass deadline)
    (fed : Pass.scanner.feed (connection.flow kind pass) (connection.incoming kind) = .more flow)
    (closed : connection.isClosed kind.origin = true)
    (nothing : arrival.bytes kind.origin = []) :
    (((connection.settle limits now).1.extend arrival).settle limits now).1 =
      ((connection.extend arrival).settle limits now).1 := by
  have stageAfter : (connection.extend arrival).stage = .passing kind pass deadline := stage
  have stillClosed : (connection.progressed kind [] flow.sink).isClosed kind.origin = true :=
    (isClosed_progressed _ _ _ _ _).trans closed
  have closedAfter : ((connection.progressed kind [] flow.sink).extend arrival).isClosed
      kind.origin = true := by
    simp only [isClosed_extend, stillClosed, Bool.true_or]
  have whole : Pass.scanner.feed ((connection.extend arrival).flow kind pass)
      ((connection.extend arrival).incoming kind) = .more flow := by
    simp only [flow_extend, incoming_extend, nothing, List.append_nil]
    exact fed
  have progressed := progressed_extend connection arrival kind [] flow.sink
  simp only [nothing, List.append_nil] at progressed
  have ended : ((connection.settle limits now).1.extend arrival).stage = .ended := by
    rw [settle_of_more stage fed, await_of_closed stillClosed]
    exact stage_fail _ _ _
  rw [settle_of_ended ended, settle_of_more stage fed, settle_of_more stageAfter whole,
    progressed, await_of_closed stillClosed, await_of_closed closedAfter, fail_extend]

theorem resembles_of_failed {abandoned : Pass.Abandoned} {rest : Bytes}
    (stage : connection.stage = .passing kind pass deadline)
    (fed : Pass.scanner.feed (connection.flow kind pass) (connection.incoming kind) =
      .failed abandoned rest)
    (within : Pass.LineWithinTaken (connection.flow kind pass)) :
    Resembles (((connection.settle limits now).1.extend arrival).settle limits now).1
      ((connection.extend arrival).settle limits now).1 := by
  have stageAfter : (connection.extend arrival).stage = .passing kind pass deadline := stage
  rcases Pass.steady_scanner.feed_append_of_failed within fed (arrival.bytes kind.origin) with
    ⟨left, failed⟩
  have whole : Pass.scanner.feed ((connection.extend arrival).flow kind pass)
      ((connection.extend arrival).incoming kind) = .failed abandoned left := by
    simp only [flow_extend, incoming_extend]
    exact failed
  have ended : ((connection.settle limits now).1.extend arrival).stage = .ended := by
    rw [settle_of_failed stage fed]
    exact stage_fail _ _ _
  rw [settle_of_ended ended, settle_of_failed stage fed, settle_of_failed stageAfter whole]
  apply Resembles.ended
  · exact stage_fail _ _ _
  · exact stage_fail _ _ _
  · have number := exchanges_fail (connection.progressed kind rest abandoned.sink) kind abandoned
    rw [exchanges_fail]
    exact number
  · intro side
    rw [output_extend]
    exact (output_fail_extend connection arrival kind abandoned rest left side).symm

/-- A message that goes through leaves what comes later to the passes behind it. -/
theorem settle_extend_of_done {delivered : Pass.Delivered} {rest : Bytes}
    (stage : connection.stage = .passing kind pass deadline)
    (fed : Pass.scanner.feed (connection.flow kind pass) (connection.incoming kind) =
      .done delivered rest) :
    ((connection.extend arrival).settle limits now).1 =
      ((((connection.progressed kind rest delivered.sink).turn limits now kind).1.extend
        arrival).settle limits now).1 := by
  have stageAfter : (connection.extend arrival).stage = .passing kind pass deadline := stage
  have whole : Pass.scanner.feed ((connection.extend arrival).flow kind pass)
      ((connection.extend arrival).incoming kind) =
        .done delivered (rest ++ arrival.bytes kind.origin) := by
    simp only [flow_extend, incoming_extend]
    exact Scanner.feed_append_of_done fed
  rw [settle_of_done stageAfter whole, progressed_extend, turn_extend]

/-- What comes later may as well have been there before. -/
theorem resembles_settle_extend (lasts : ∀ kind, 0 < (limits.of kind).receiveTimeout)
    (isInTime : connection.IsInTime now) (fits : connection.Fits arrival) :
    Resembles (((connection.settle limits now).1.extend arrival).settle limits now).1
      ((connection.extend arrival).settle limits now).1 := by
  revert isInTime fits
  apply settle_induction (motive := fun connection settled =>
    connection.IsInTime now → connection.Fits arrival →
      Resembles ((settled.1.extend arrival).settle limits now).1
        ((connection.extend arrival).settle limits now).1)
  case ended =>
    intro connection _ _ _
    exact .same _
  case waits =>
    intro connection kind pass deadline flow stage fed awaited isInTime fits
    have inTime : flow.progress.header? = none → now < deadline := by
      intro noHeader
      apply isInTime.inTime stage
      by_contra accepted
      exact Pass.header?_ne_none_of_feed fed accepted noHeader
    dsimp only
    rw [← settle_of_more stage fed]
    cases closed : connection.isClosed kind.origin with
    | true =>
        rw [settle_extend_of_closed stage fed closed (fits _ closed)]
        exact .same _
    | false =>
        rw [settle_extend_of_open stage fed inTime closed]
        exact .same _
  case fails =>
    intro connection kind pass deadline abandoned rest stage fed failed isInTime fits
    dsimp only
    rw [← settle_of_failed stage fed]
    exact resembles_of_failed stage fed (isInTime.within stage)
  case turns =>
    intro connection kind pass deadline delivered rest stage fed turned settled ih isInTime fits
    have turnedFits : turned.1.Fits arrival := by
      intro side closed
      apply fits side
      rw [← closed, isClosed_turn, isClosed_progressed]
    rw [settle_extend_of_done stage fed]
    exact ih (.turn lasts _ kind) turnedFits

end Eager

section Rest

/-- A handler has done all that it can do. -/
def Rests (now : Nat) (connection : Connection) : Prop :=
  ∀ {kind pass deadline}, connection.stage = .passing kind pass deadline →
    connection.incoming kind = [] ∧ connection.isClosed kind.origin = false ∧
      Pass.scanner.atSegmentEnd (connection.flow kind pass) = none ∧
        (pass.header? = none → now < deadline)

theorem rests_of_ended (ended : connection.stage = .ended) : connection.Rests now := by
  intro kind pass deadline stage
  rw [ended] at stage
  cases stage

theorem rests_await {flow : Flow Pass} (read : connection.incoming kind = [])
    (same : connection.outgoing kind = flow.sink)
    (nothingDue : Pass.scanner.atSegmentEnd flow = none) :
    (connection.await limits now kind flow deadline).1.Rests now := by
  simp only [await]
  split
  · exact rests_of_ended (stage_fail _ _ _)
  · rename_i isOpen
    split
    · exact rests_of_ended (stage_fail _ _ _)
    · rename_i unexpired
      intro next pass due stage
      cases stage
      refine ⟨read, eq_false_of_ne_true isOpen, ?_, ?_⟩
      · rcases flow with ⟨pass, sink⟩
        cases same
        exact nothingDue
      · intro noHeader
        by_contra late
        rcases flow with ⟨receiver | ⟨header, body⟩, sink⟩
        · rw [if_pos (Nat.le_of_not_lt late)] at unexpired
          cases unexpired
        · cases noHeader

theorem rests_settle (connection : Connection) (limits : LimitsByKind) (now : Nat) :
    (connection.settle limits now).1.Rests now := by
  apply settle_induction (motive := fun _ settled => settled.1.Rests now)
  case ended =>
    intro connection stage
    exact rests_of_ended stage
  case waits =>
    intro connection kind pass deadline flow _ fed awaited
    apply rests_await
    · exact incoming_progressed _ _ _ _
    · exact outgoing_progressed _ _ _ _
    · exact (Scanner.feed_eq_more_iff.mp fed).2
  case fails =>
    intro connection kind pass deadline abandoned rest _ _ failed
    exact rests_of_ended (stage_fail _ _ _)
  case turns =>
    intro connection kind pass deadline delivered rest _ _ turned settled rests
    exact rests

theorem settle_of_rests (rests : connection.Rests now) (limits : LimitsByKind) :
    (connection.settle limits now).1 = connection := by
  cases stage : connection.stage with
  | ended => rw [settle_of_ended stage]
  | passing kind pass deadline =>
      rcases rests stage with ⟨read, isOpen, nothingDue, inTime⟩
      have fed : Pass.scanner.feed (connection.flow kind pass) (connection.incoming kind) =
          .more (connection.flow kind pass) := by
        simp only [read, Scanner.feed, nothingDue]
      have progressed : connection.progressed kind [] (connection.flow kind pass).sink =
          connection := by
        rw [← read]
        cases kind <;> rfl
      rw [settle_of_more stage fed, progressed, await_of_open isOpen inTime]
      rcases connection with ⟨peers, _, exchanges⟩
      cases stage
      rfl

end Rest

end Connection

end HttpRelay
