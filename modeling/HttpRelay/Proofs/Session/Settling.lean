import HttpRelay.Session.View

/-!
# How a handler settles

What a handler does at one time: it passes messages on as long as there are bytes to be read,
each pass with what the one before left, until a pass fails or has read everything there is.
One induction principle says so, and facts about what a handler does follow it.
-/

namespace HttpRelay

namespace Connection

variable {limits : LimitsByKind} {now : Nat} {connection : Connection}

/-- What is there to be read by a pass of the given kind. -/
def incoming (connection : Connection) (kind : Kind) : Bytes :=
  (connection.peers.get kind.origin).inbox

def outgoing (connection : Connection) (kind : Kind) : Sink :=
  (connection.peers.get kind.destination).sink

theorem incoming_progressed (connection : Connection) (kind : Kind) (rest : Bytes) (sink : Sink) :
    (connection.progressed kind rest sink).incoming kind = rest := by
  cases kind <;> rfl

theorem outgoing_progressed (connection : Connection) (kind : Kind) (rest : Bytes) (sink : Sink) :
    (connection.progressed kind rest sink).outgoing kind = sink := by
  cases kind <;> rfl

theorem settle_of_ended (stage : connection.stage = .ended) :
    connection.settle limits now = (connection, []) := by
  simp only [settle, stage]

theorem settle_of_passing {kind : Kind} {pass : Pass} {deadline : Nat}
    (stage : connection.stage = .passing kind pass deadline) :
    connection.settle limits now =
      (let reached :=
        match Pass.scanner.feed (connection.flow kind pass) (connection.incoming kind) with
        | .more flow =>
            (connection.progressed kind [] flow.sink).await limits now kind flow deadline
        | .failed abandoned rest =>
            (connection.progressed kind rest abandoned.sink).fail kind abandoned
        | .done delivered rest =>
            let turned := (connection.progressed kind rest delivered.sink).turn limits now kind
            let settled := turned.1.settle limits now
            (settled.1, turned.2 ++ settled.2)
      (reached.1, beginning kind pass (connection.incoming kind) ++ reached.2)) := by
  rw [settle, stage]
  simp only [incoming]
  split <;> rename_i fed <;> simp only [fed]

/-- What holds of a handler that is at its end, waits or gives up, and is kept by a message
that goes through, holds of whatever a handler does. -/
theorem settle_induction {motive : Connection → Connection × List Notice → Prop}
    (ended : ∀ connection : Connection, connection.stage = .ended →
      motive connection (connection, []))
    (waits : ∀ (connection : Connection) kind pass deadline flow,
      connection.stage = .passing kind pass deadline →
      Pass.scanner.feed (connection.flow kind pass) (connection.incoming kind) = .more flow →
      let awaited :=
        (connection.progressed kind [] flow.sink).await limits now kind flow deadline
      motive connection
        (awaited.1, beginning kind pass (connection.incoming kind) ++ awaited.2))
    (fails : ∀ (connection : Connection) kind pass deadline abandoned rest,
      connection.stage = .passing kind pass deadline →
      Pass.scanner.feed (connection.flow kind pass) (connection.incoming kind) =
        .failed abandoned rest →
      let failed := (connection.progressed kind rest abandoned.sink).fail kind abandoned
      motive connection (failed.1, beginning kind pass (connection.incoming kind) ++ failed.2))
    (turns : ∀ (connection : Connection) kind pass deadline delivered rest,
      connection.stage = .passing kind pass deadline →
      Pass.scanner.feed (connection.flow kind pass) (connection.incoming kind) =
        .done delivered rest →
      let turned := (connection.progressed kind rest delivered.sink).turn limits now kind
      let settled := turned.1.settle limits now
      motive turned.1 settled →
      motive connection
        (settled.1, beginning kind pass (connection.incoming kind) ++ (turned.2 ++ settled.2)))
    (connection : Connection) : motive connection (connection.settle limits now) := by
  induction connection using settle.induct limits now with
  | case1 connection stage =>
      simp only [settle_of_ended stage]
      exact ended connection stage
  | case2 connection kind pass deadline stage _ _ _ _ ih =>
      simp only [settle_of_passing stage]
      cases fed : Pass.scanner.feed (connection.flow kind pass) (connection.incoming kind) with
      | more flow => exact waits connection kind pass deadline flow stage fed
      | failed abandoned rest => exact fails connection kind pass deadline abandoned rest stage fed
      | done delivered rest =>
          exact turns connection kind pass deadline delivered rest stage fed
            (ih delivered rest fed)

def isClosed (connection : Connection) (side : Side) : Bool :=
  (connection.peers.get side).isClosed

theorem isClosed_progressed (connection : Connection) (kind : Kind) (rest : Bytes) (sink : Sink)
    (side : Side) : (connection.progressed kind rest sink).isClosed side =
      connection.isClosed side := by
  cases kind <;> cases side <;> rfl

theorem isClosed_fail (connection : Connection) (kind : Kind) (abandoned : Pass.Abandoned)
    (side : Side) : (connection.fail kind abandoned).1.isClosed side =
      connection.isClosed side := by
  simp only [fail]
  split <;> cases kind <;> cases side <;> rfl

theorem isClosed_await (connection : Connection) (kind : Kind) (flow : Flow Pass) (deadline : Nat)
    (side : Side) : (connection.await limits now kind flow deadline).1.isClosed side =
      connection.isClosed side := by
  simp only [await]
  split
  · apply isClosed_fail
  · split
    · apply isClosed_fail
    · rfl

theorem isClosed_turn (connection : Connection) (kind : Kind) (side : Side) :
    (connection.turn limits now kind).1.isClosed side = connection.isClosed side := by
  cases kind <;> rfl

theorem isClosed_settle (connection : Connection) (side : Side) :
    (connection.settle limits now).1.isClosed side = connection.isClosed side := by
  apply settle_induction (motive := fun connection settled =>
    settled.1.isClosed side = connection.isClosed side)
  case ended =>
    intro connection _
    rfl
  case waits =>
    intro connection kind pass deadline flow _ _ awaited
    simp only [awaited, isClosed_await, isClosed_progressed]
  case fails =>
    intro connection kind pass deadline abandoned rest _ _ failed
    simp only [failed, isClosed_fail, isClosed_progressed]
  case turns =>
    intro connection kind pass deadline delivered rest _ _ turned settled ih
    simp only [ih, turned, isClosed_turn, isClosed_progressed]

theorem isClosed_interrupt (connection : Connection) (side : Side) :
    connection.interrupt.1.isClosed side = connection.isClosed side := by
  simp only [interrupt]
  split
  · rfl
  · apply isClosed_fail

end Connection

end HttpRelay
