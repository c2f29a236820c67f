import HttpRelay.Proofs.Relay.Request
import HttpRelay.Proofs.Session.Evolution
import HttpRelay.Proofs.Session.Settling
import HttpRelay.Proofs.Tracker

/-!
# Counting handlers

Every handler that has not returned holds one guard, which is busy from the first byte of a
request to the end of its response (`Session.isTallied_run`). The counts follow from the
connections alone, then, in whatever order they were opened (`Session.IsTallied.congr`).
-/

namespace HttpRelay

namespace Pass

/-- Whether a handler is busy that passes a message on. -/
def isBusy (kind : Kind) (pass : Pass) : Bool :=
  match kind with
  | .request => pass.hasStarted
  | .response => true

theorem hasStarted_of_feed_more {pass : Pass} {sink : Sink} {bytes : Bytes} {flow : Flow Pass}
    (fed : scanner.feed ⟨pass, sink⟩ bytes = .more flow) :
    flow.progress.hasStarted = (pass.hasStarted || !bytes.isEmpty) := by
  have scanned := (Scanner.feed_eq_more_iff.mp fed).1
  cases bytes with
  | nil =>
      cases scanned
      simp
  | cons byte bytes =>
      simp only [List.isEmpty_cons, Bool.not_false, Bool.or_true]
      simp only [Scanner.scan] at scanned
      cases accepted : scanner.accept ⟨pass, sink⟩ byte with
      | more next =>
          simp only [accepted] at scanned
          exact hasStarted_of_scan (hasStarted_of_accept accepted) scanned
      | done delivered => simp [accepted] at scanned
      | failed abandoned => simp [accepted] at scanned
      | refused abandoned => simp [accepted] at scanned

theorem isBusy_of_feed_more {pass : Pass} {sink : Sink} {bytes : Bytes} {flow : Flow Pass}
    (fed : scanner.feed ⟨pass, sink⟩ bytes = .more flow) (kind : Kind) :
    flow.progress.isBusy kind = (pass.isBusy kind || !bytes.isEmpty) := by
  cases kind with
  | request => exact hasStarted_of_feed_more fed
  | response => rfl

end Pass

/-- What a notice makes of the guard of a handler. -/
def Notice.mark (guard? : Option Bool) : Notice → Option Bool
  | .busy => guard?.map fun _ => true
  | .idle => guard?.map fun _ => false
  | .released => none
  | .exchanged | .synthesized .. | .failed .. => guard?

namespace Connection

/-- Whether a handler is busy, if it has not returned. -/
def guard? (connection : Connection) : Option Bool :=
  match connection.stage with
  | .passing kind pass _ => some (pass.isBusy kind)
  | .ended => none

variable {limits : LimitsByKind} {now : Nat}

theorem guard?_fail (connection : Connection) (kind : Kind) (abandoned : Pass.Abandoned)
    (guard? : Option Bool) :
    (connection.fail kind abandoned).2.foldl Notice.mark guard? =
      (connection.fail kind abandoned).1.guard? := by
  simp only [fail]
  split <;> rfl

theorem guard?_await (connection : Connection) (kind : Kind) (flow : Flow Pass)
    (deadline : Nat) :
    (connection.await limits now kind flow deadline).2.foldl Notice.mark
        (some (flow.progress.isBusy kind)) =
      (connection.await limits now kind flow deadline).1.guard? := by
  simp only [await]
  split
  · exact guard?_fail _ _ _ _
  · split
    · exact guard?_fail _ _ _ _
    · rfl

theorem guard?_beginning (kind : Kind) (pass : Pass) (inbox : Bytes) :
    (beginning kind pass inbox).foldl Notice.mark (some (pass.isBusy kind)) =
      some (pass.isBusy kind || !inbox.isEmpty) := by
  cases kind with
  | response => rfl
  | request =>
      simp only [beginning, Pass.isBusy]
      cases pass.hasStarted <;> cases inbox.isEmpty <;> rfl

/-- A handler says everything about its guard. -/
theorem guard?_settle (connection : Connection) :
    (connection.settle limits now).2.foldl Notice.mark connection.guard? =
      (connection.settle limits now).1.guard? := by
  apply settle_induction (motive := fun connection settled =>
    settled.2.foldl Notice.mark connection.guard? = settled.1.guard?)
  case ended =>
    intro connection _
    rfl
  case waits =>
    intro connection kind pass deadline flow stage fed awaited
    simp only [List.foldl_append, guard?, stage, guard?_beginning]
    rw [← Pass.isBusy_of_feed_more fed]
    exact guard?_await _ kind flow deadline
  case fails =>
    intro connection kind pass deadline abandoned rest stage fed failed
    simp only [List.foldl_append]
    exact guard?_fail _ _ _ _
  case turns =>
    intro connection kind pass deadline delivered rest stage fed turned settled ih
    have isThere : (connection.incoming kind).isEmpty = false := by
      have longer := Scanner.length_lt_of_feed_done fed
      cases incoming : connection.incoming kind with
      | nil => simp [incoming] at longer
      | cons byte bytes => rfl
    have turns : turned.2.foldl Notice.mark (some true) = turned.1.guard? := by
      cases kind <;> rfl
    simp only [List.foldl_append, guard?, stage, guard?_beginning, isThere, Bool.not_false,
      Bool.or_true, turns]
    exact ih

theorem guard?_interrupt (connection : Connection) :
    connection.interrupt.2.foldl Notice.mark connection.guard? = connection.interrupt.1.guard? := by
  simp only [interrupt]
  split
  · rfl
  · exact guard?_fail _ _ _ _

end Connection

namespace Session

variable {session : Session} {name : String}

theorem isExact_absorb (exact : session.roster.IsExact) (name : String) (notice : Notice) :
    (absorb name session notice).roster.IsExact := by
  cases notice with
  | busy => exact exact.mark name true
  | idle => exact exact.mark name false
  | released => exact exact.drop name
  | exchanged | synthesized | failed => exact exact

theorem isBusy?_absorb (name other : String) (session : Session) (notice : Notice) :
    (absorb name session notice).roster.isBusy? other =
      if other = name then notice.mark (session.roster.isBusy? name)
      else session.roster.isBusy? other := by
  cases notice with
  | busy => exact Roster.isBusy?_mark session.roster name other true
  | idle => exact Roster.isBusy?_mark session.roster name other false
  | released => exact Roster.isBusy?_drop session.roster name other
  | exchanged | synthesized | failed =>
      by_cases same : other = name <;> simp [same, absorb, Notice.mark]

theorem isExact_foldl_absorb (exact : session.roster.IsExact) (name : String)
    (notices : List Notice) : (notices.foldl (absorb name) session).roster.IsExact := by
  induction notices generalizing session with
  | nil => exact exact
  | cons notice notices ih => exact ih (isExact_absorb exact name notice)

theorem isBusy?_foldl_absorb (name other : String) (session : Session) (notices : List Notice) :
    (notices.foldl (absorb name) session).roster.isBusy? other =
      if other = name then notices.foldl Notice.mark (session.roster.isBusy? name)
      else session.roster.isBusy? other := by
  induction notices generalizing session with
  | nil =>
      by_cases same : other = name <;> simp [same]
  | cons notice notices ih =>
      simp only [List.foldl_cons, ih, isBusy?_absorb]
      by_cases same : other = name <;> simp [same]

/-- The tracker counts the handlers that have not returned. -/
structure IsTallied (session : Session) : Prop where
  exact : session.roster.IsExact
  guards : ∀ name, session.roster.isBusy? name =
    (session.connection? name).bind Connection.guard?

namespace IsTallied

theorem act (tallied : session.IsTallied) {action : Connection → Connection × List Notice}
    (tells : ∀ connection, (action connection).2.foldl Notice.mark connection.guard? =
      (action connection).1.guard?) (name : String) : (session.act name action).1.IsTallied where
  exact := by
    simp only [Session.act]
    split
    · exact tallied.exact
    · apply isExact_foldl_absorb
      exact tallied.exact
  guards other := by
    simp only [connection?_act]
    cases found : session.connection? name with
    | none =>
        have unmoved : (session.act name action).1 = session := by
          simp only [Session.act, show session.connections.lookup name = none from found]
        simp only [unmoved, tallied.guards other]
        by_cases same : other = name <;> simp [same, found]
    | some connection =>
        have absorbed : (session.act name action).1.roster.isBusy? other =
            if other = name then (action connection).2.foldl Notice.mark
              (session.roster.isBusy? name)
            else session.roster.isBusy? other := by
          simp only [Session.act, show session.connections.lookup name = some connection from found]
          exact isBusy?_foldl_absorb _ _ _ _
        simp only [absorbed, tallied.guards, found, Option.bind_some]
        by_cases same : other = name
        · simp only [if_pos same, Option.map_some, Option.bind_some, tells]
        · simp only [if_neg same]

theorem proceed (session : Session) (connection : Connection) :
    (session.proceed connection).2.foldl Notice.mark connection.guard? =
      (session.proceed connection).1.guard? := by
  simp only [Session.proceed]
  split
  · exact connection.guard?_interrupt
  · exact connection.guard?_settle

theorem connect (tallied : session.IsTallied) (isFree : session.connection? name = none) :
    IsTallied { session with
      connections := session.connections ++ [(name, .start session.limits session.now)]
      roster := session.roster.track name } := by
  have isNew : session.roster.isBusy? name = none := by
    simp only [tallied.guards, isFree, Option.bind_none]
  refine ⟨tallied.exact.track isNew, ?_⟩
  intro other
  simp only [Roster.isBusy?_track isNew, tallied.guards, connection?] at isFree ⊢
  simp only [List.lookup_append, Entries.lookup_cons_ite, List.lookup_nil]
  by_cases same : other = name
  · simp only [same, isFree]
    rfl
  · simp only [if_neg same, Option.or_none]

theorem step (tallied : session.IsTallied) (event : Event) :
    (session.step event).1.IsTallied := by
  have react : ∀ name side change, (session.react name side change).1.IsTallied := by
    intro name side change
    apply tallied.act
    intro connection
    exact proceed session (connection.modifyPeer side change)
  have actAll : ∀ later : Session, later.IsTallied → (later.actAll later.proceed).1.IsTallied := by
    intro later tallied
    apply actAll_induction tallied
    intro current name tallied
    exact tallied.act (proceed later) name
  cases event with
  | opened name =>
      simp only [Session.step, Session.connect]
      split
      · exact tallied
      · rename_i isFree
        have opened := tallied.connect (Option.not_isSome_iff_eq_none.mp isFree)
        exact opened.act (proceed _) name
  | sent name side bytes => exact react name side _
  | closed name side => exact react name side _
  | dropped name side => exact react name side _
  | elapsed milliseconds => exact actAll _ ⟨tallied.exact, tallied.guards⟩
  | shutdown => exact actAll _ ⟨tallied.exact, tallied.guards⟩

end IsTallied

theorem isTallied_run (limits : LimitsByKind) (events : List Event) :
    (run limits events).IsTallied := by
  apply run_induction (motive := fun _ session => session.IsTallied)
  · exact ⟨.empty, fun _ => rfl⟩
  · intro events event tallied
    exact tallied.step event

theorem IsTallied.counts_of_ended (tallied : session.IsTallied)
    (ended : ∀ name connection, session.connection? name = some connection →
      connection.stage = .ended) :
    session.roster.tracker.active = 0 ∧ session.roster.tracker.busy = 0 := by
  apply tallied.exact.counts_of_free
  intro name
  simp only [tallied.guards]
  cases found : session.connection? name with
  | none => rfl
  | some connection => simp only [Option.bind_some, Connection.guard?, ended name connection found]

theorem IsTallied.congr {other : Session} (tallied : session.IsTallied)
    (otherTallied : other.IsTallied)
    (same : ∀ name, (session.connection? name).bind Connection.guard? =
      (other.connection? name).bind Connection.guard?) :
    session.roster.tracker.active = other.roster.tracker.active ∧
      session.roster.tracker.busy = other.roster.tracker.busy := by
  apply tallied.exact.congr otherTallied.exact
  intro name
  simp only [tallied.guards, otherTallied.guards, same]

end Session

end HttpRelay
