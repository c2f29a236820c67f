import HttpRelay.Proofs.Entries
import HttpRelay.Proofs.Session.Settling
import Mathlib.Data.List.Induction

/-!
# How a session evolves

What an event makes of a connection depends on the event, on the connection itself, and on what
all connections share: the limits, the clock, and whether shutdown was announced
(`connection?_step`). No event that names one connection changes anything that is shared.
Whatever holds of a connection when it is opened, and is kept by its peers and its handler,
holds in every session (`connection_induction`).
-/

namespace HttpRelay

namespace Session

/-- What an event makes of the peers of the connection of a name. -/
def Event.change (name : String) : Event → Connection → Connection
  | .sent other side bytes, connection =>
      if other = name then connection.modifyPeer side (·.send bytes) else connection
  | .closed other side, connection =>
      if other = name then connection.modifyPeer side (·.close) else connection
  | .dropped other side, connection =>
      if other = name then connection.modifyPeer side (·.leave) else connection
  | .opened _, connection | .elapsed _, connection | .shutdown, connection => connection

def Event.concerns (name : String) : Event → Prop
  | .opened other | .sent other _ _ | .closed other _ | .dropped other _ => other = name
  | .elapsed _ | .shutdown => False

theorem Event.change_of_not_concerns {name : String} {event : Event}
    (other : ¬event.concerns name) (connection : Connection) :
    event.change name connection = connection := by
  cases event <;> simp_all [concerns, change]

theorem Event.stage_change (name : String) (event : Event) (connection : Connection) :
    (event.change name connection).stage = connection.stage := by
  cases event with
  | opened | elapsed | shutdown => rfl
  | sent | closed | dropped =>
      simp only [change]
      split <;> rfl

theorem Event.exchanges_change (name : String) (event : Event) (connection : Connection) :
    (event.change name connection).exchanges = connection.exchanges := by
  cases event with
  | opened | elapsed | shutdown => rfl
  | sent | closed | dropped =>
      simp only [change]
      split <;> rfl

/-- Only a peer that goes away takes other things than before. -/
theorem Event.sink_change {name : String} {event : Event}
    (stays : ∀ side, event ≠ .dropped name side) (connection : Connection) (side : Side) :
    ((event.change name connection).peers.get side).sink = (connection.peers.get side).sink := by
  cases event with
  | opened | elapsed | shutdown => rfl
  | sent other origin bytes =>
      simp only [change]
      split
      · cases origin <;> cases side <;>
          simp only [Connection.modifyPeer, Sides.get, Sides.modify, Peer.send] <;> split <;> rfl
      · rfl
  | closed other origin =>
      simp only [change]
      split
      · cases origin <;> cases side <;> rfl
      · rfl
  | dropped other origin =>
      have different : other ≠ name := by
        rintro rfl
        exact stays origin rfl
      simp only [change, if_neg different]

theorem output_modifyPeer {change : Peer → Peer}
    (keeps : ∀ peer, (change peer).sink.output = peer.sink.output) (connection : Connection)
    (origin side : Side) :
    (connection.modifyPeer origin change).output side = connection.output side := by
  cases origin <;> cases side <;>
    simp [Connection.output, Connection.modifyPeer, Sides.get, Sides.modify, keeps]

/-- Nothing that the peers do changes what they got. -/
theorem Event.output_change (name : String) (event : Event) (connection : Connection)
    (side : Side) : (event.change name connection).output side = connection.output side := by
  cases event with
  | opened | elapsed | shutdown => rfl
  | sent subject origin bytes =>
      simp only [change]
      split
      · apply output_modifyPeer
        intro peer
        simp only [Peer.send]
        split <;> rfl
      · rfl
  | closed subject origin =>
      simp only [change]
      split
      · apply output_modifyPeer
        intro peer
        rfl
      · rfl
  | dropped subject origin =>
      simp only [change]
      split
      · apply output_modifyPeer
        intro peer
        rfl
      · rfl

/-- Whether an event lets the handler of the connection of a name act. -/
def Event.wakes (name : String) : Event → Bool
  | .opened _ => false
  | .sent other _ _ | .closed other _ | .dropped other _ => other == name
  | .elapsed _ | .shutdown => true

theorem Event.change_of_not_wakes {name : String} {event : Event}
    (asleep : event.wakes name = false) (connection : Connection) :
    event.change name connection = connection := by
  cases event <;> simp_all [wakes, change]

/-- What a handler notices of the session that it is in. -/
structure Surroundings where
  limits : LimitsByKind
  now : Nat
  isStopping : Bool

namespace Surroundings

def after (surroundings : Surroundings) : Event → Surroundings
  | .elapsed milliseconds => { surroundings with now := surroundings.now + milliseconds }
  | .shutdown => { surroundings with isStopping := true }
  | .opened _ | .sent .. | .closed .. | .dropped .. => surroundings

def proceed (surroundings : Surroundings) (connection : Connection) : Connection :=
  if surroundings.isStopping then connection.interrupt.1
  else (connection.settle surroundings.limits surroundings.now).1

/-- A connection that was just opened, after its handler acted. -/
def opened (surroundings : Surroundings) : Connection :=
  surroundings.proceed (.start surroundings.limits surroundings.now)

/-- What an event makes of the connection of a name, if there is one. -/
def react (surroundings : Surroundings) (name : String) (event : Event) :
    Option Connection → Option Connection
  | none => if event = .opened name then some surroundings.opened else none
  | some connection =>
      some (if event.wakes name then
        (surroundings.after event).proceed (event.change name connection) else connection)

variable {surroundings : Surroundings} {name : String} {event : Event}

theorem limits_after (surroundings : Surroundings) (event : Event) :
    (surroundings.after event).limits = surroundings.limits := by
  cases event <;> rfl

theorem after_of_not_wakes (asleep : event.wakes name = false) :
    surroundings.after event = surroundings := by
  cases event <;> simp_all [Event.wakes, after]

theorem proceed_of_ended {connection : Connection} (ended : connection.stage = .ended) :
    surroundings.proceed connection = connection := by
  simp only [proceed, Connection.interrupt, Connection.settle_of_ended ended, ended, ite_self]

/-- Events concern only the peers of a connection whose handler has returned. -/
theorem react_of_ended {connection : Connection} (ended : connection.stage = .ended)
    (event : Event) :
    surroundings.react name event (some connection) = some (event.change name connection) := by
  have stays := (event.stage_change name connection).trans ended
  simp only [react, proceed_of_ended stays]
  split
  · rfl
  · rename_i asleep
    rw [Event.change_of_not_wakes (eq_false_of_ne_true asleep)]

/-- A connection that is there after an event was just opened, or its handler acted, or the
event did not reach it. -/
theorem opened_or_continued_of_react {before? : Option Connection} {after : Connection}
    (found : surroundings.react name event before? = some after) :
    (before? = none ∧ event = .opened name ∧ after = surroundings.opened) ∨
      ∃ before, before? = some before ∧
        (after = (surroundings.after event).proceed (event.change name before) ∨
          surroundings.after event = surroundings ∧ after = before) := by
  cases before? with
  | none =>
      left
      simp only [react] at found
      split at found
      · rename_i isOpening
        cases found
        exact ⟨rfl, isOpening, rfl⟩
      · cases found
  | some before =>
      right
      simp only [react, Option.some.injEq] at found
      refine ⟨before, rfl, ?_⟩
      cases wakes : event.wakes name with
      | true =>
          left
          simp only [← found, wakes, if_true]
      | false =>
          right
          simp only [← found, wakes, Bool.false_eq_true, if_false, and_true]
          exact after_of_not_wakes wakes

theorem isClosed_proceed (connection : Connection) (side : Side) :
    (surroundings.proceed connection).isClosed side = connection.isClosed side := by
  simp only [proceed]
  split
  · exact connection.isClosed_interrupt side
  · exact connection.isClosed_settle side

end Surroundings

def surroundings (session : Session) : Surroundings :=
  ⟨session.limits, session.now, session.isStopping⟩

def names (session : Session) : List String :=
  session.connections.map Prod.fst

def connection? (session : Session) (name : String) : Option Connection :=
  session.connections.lookup name

variable {session : Session} {name : String} {event : Event}

section Acting

theorem absorb_frame (name : String) (session : Session) (notice : Notice) :
    (absorb name session notice).connections = session.connections ∧
      (absorb name session notice).surroundings = session.surroundings := by
  cases notice <;> exact ⟨rfl, rfl⟩

theorem foldl_absorb_frame (name : String) (session : Session) (notices : List Notice) :
    (notices.foldl (absorb name) session).connections = session.connections ∧
      (notices.foldl (absorb name) session).surroundings = session.surroundings := by
  induction notices generalizing session with
  | nil => exact ⟨rfl, rfl⟩
  | cons notice notices ih =>
      rcases absorb_frame name session notice with ⟨connections, surroundings⟩
      rcases ih (absorb name session notice) with ⟨connectionsAfter, surroundingsAfter⟩
      exact ⟨connectionsAfter.trans connections, surroundingsAfter.trans surroundings⟩

variable (session : Session) (name : String) (action : Connection → Connection × List Notice)

theorem surroundings_act : (session.act name action).1.surroundings = session.surroundings := by
  simp only [act]
  split
  · rfl
  · exact (foldl_absorb_frame _ _ _).2

theorem names_act : (session.act name action).1.names = session.names := by
  simp only [act]
  split
  · rfl
  · simp only [names, (foldl_absorb_frame _ _ _).1]
    exact Entries.map_fst_replace _ _ _

theorem connection?_act (other : String) :
    (session.act name action).1.connection? other =
      if other = name then (session.connection? name).map fun connection => (action connection).1
      else session.connection? other := by
  rw [act, connection?]
  cases found : session.connections.lookup name with
  | none =>
      by_cases same : other = name
      · subst other
        simp [connection?, found]
      · simp [connection?, same]
  | some connection =>
      simp only [(foldl_absorb_frame _ _ _).1, connection?, Entries.lookup_replace, found,
        Option.map_some]

theorem proceed_surroundings (connection : Connection) :
    (session.proceed connection).1 = session.surroundings.proceed connection :=
  apply_ite Prod.fst _ _ _

end Acting

section Together

/-- All handlers act one after another, each on its own connection. -/
theorem actAll_induction {motive : Session → Prop} {action : Connection → Connection × List Notice}
    (start : motive session)
    (step : ∀ current name, motive current → motive (Session.act current name action).1) :
    motive (session.actAll action).1 := by
  -- The fold goes over the connections of the first session while the session changes.
  apply List.foldlRecOn (motive := fun current : Session × List Ending => motive current.1)
  · exact start
  · intro current holds entry _
    exact step current.1 entry.1 holds

theorem surroundings_actAll (action : Connection → Connection × List Notice) :
    (session.actAll action).1.surroundings = session.surroundings := by
  apply actAll_induction (motive := fun current => current.surroundings = session.surroundings)
  · rfl
  · intro current name same
    exact (surroundings_act current name action).trans same

theorem names_actAll (action : Connection → Connection × List Notice) :
    (session.actAll action).1.names = session.names := by
  apply actAll_induction (motive := fun current => current.names = session.names)
  · rfl
  · intro current name same
    exact (names_act current name action).trans same

theorem mem_names_iff : name ∈ session.names ↔ (session.connection? name).isSome = true := by
  simp only [names, connection?, List.lookup_isSome_iff, List.mem_map, beq_iff_eq]
  constructor
  · rintro ⟨entry, isIn, rfl⟩
    exact ⟨entry, isIn, rfl⟩
  · rintro ⟨entry, isIn, rfl⟩
    exact ⟨entry, isIn, rfl⟩

theorem connection?_foldl_act (action : Connection → Connection × List Notice)
    (entries : List (String × Connection)) (distinct : (entries.map Prod.fst).Nodup)
    (current : Session × List Ending) :
    (entries.foldl (fun (session, reports) (name, _) =>
        let (session, more) := session.act name action
        (session, reports ++ more)) current).1.connection? name =
      if name ∈ entries.map Prod.fst then
        (current.1.connection? name).map fun connection => (action connection).1
      else current.1.connection? name := by
  induction entries generalizing current with
  | nil => simp
  | cons entry entries ih =>
      simp only [List.map_cons, List.nodup_cons] at distinct
      rcases distinct with ⟨notIn, distinct⟩
      simp only [List.foldl_cons, ih distinct, connection?_act, List.map_cons, List.mem_cons]
      by_cases isFirst : name = entry.1
      · subst isFirst
        simp only [notIn, or_false, if_true, if_false]
      · simp only [isFirst, false_or, if_false]

/-- When all handlers act, each acts once. -/
theorem connection?_actAll (distinct : session.names.Nodup)
    (action : Connection → Connection × List Notice) :
    (session.actAll action).1.connection? name =
      (session.connection? name).map fun connection => (action connection).1 := by
  simp only [actAll, connection?_foldl_act action session.connections distinct]
  split
  · rfl
  · rename_i notIn
    have absent : session.connection? name = none := by
      apply Option.not_isSome_iff_eq_none.mp
      intro isThere
      exact notIn (mem_names_iff.mpr isThere)
    simp only [absent, Option.map_none]

end Together

section Steps

/-- Only the clock and shutdown change what a handler notices. -/
theorem surroundings_step (session : Session) (event : Event) :
    (session.step event).1.surroundings = session.surroundings.after event := by
  cases event with
  | opened name =>
      simp only [step, connect]
      split
      · rfl
      · exact surroundings_act _ _ _
  | sent name side bytes => exact surroundings_act _ _ _
  | closed name side => exact surroundings_act _ _ _
  | dropped name side => exact surroundings_act _ _ _
  | elapsed milliseconds => exact surroundings_actAll _
  | shutdown => exact surroundings_actAll _

theorem limits_step (session : Session) (event : Event) :
    (session.step event).1.limits = session.limits :=
  (congrArg Surroundings.limits (surroundings_step session event)).trans
    (Surroundings.limits_after _ _)

theorem names_connect :
    (session.connect name).1.names =
      if (session.connection? name).isSome then session.names else session.names ++ [name] := by
  rw [connect, connection?]
  split
  · rfl
  · simp only [names_act]
    simp [names]

theorem nodup_names_step (nodup : session.names.Nodup) :
    (session.step event).1.names.Nodup := by
  cases event with
  | opened name =>
      simp only [step, names_connect]
      split
      · exact nodup
      · rename_i isNew
        exact Entries.nodup_concat nodup (Option.not_isSome_iff_eq_none.mp isNew)
  | sent name side bytes => rwa [step, react, names_act]
  | closed name side => rwa [step, react, names_act]
  | dropped name side => rwa [step, react, names_act]
  | elapsed milliseconds => rwa [step, names_actAll]
  | shutdown => rwa [step, names_actAll]

theorem connection?_react {subject : String} {side : Side} {change : Peer → Peer}
    (unopened : event ≠ .opened name) (wakes : event.wakes name = (subject == name))
    (unshifted : session.surroundings.after event = session.surroundings)
    (changes : ∀ connection, subject = name →
      event.change name connection = connection.modifyPeer side change) :
    (session.react subject side change).1.connection? name =
      session.surroundings.react name event (session.connection? name) := by
  simp only [Session.react, connection?_act]
  by_cases same : name = subject
  · subst subject
    cases found : session.connection? name with
    | none => simp [Surroundings.react, unopened]
    | some connection =>
        simp [Surroundings.react, wakes, unshifted, changes, proceed_surroundings]
  · have different : (subject == name) = false := beq_false_of_ne (Ne.symm same)
    cases session.connection? name <;>
      simp [Surroundings.react, unopened, wakes, different, same]

theorem connection?_connect (subject : String) :
    (session.connect subject).1.connection? name =
      session.surroundings.react name (.opened subject) (session.connection? name) := by
  simp only [connect]
  by_cases isTaken : (session.connections.lookup subject).isSome
  · simp only [if_pos isTaken]
    cases found : session.connection? name with
    | some connection => rfl
    | none =>
        have other : subject ≠ name := by
          rintro rfl
          simp only [show session.connections.lookup subject = none from found] at isTaken
          cases isTaken
        simp [Surroundings.react, other]
  · have isFree : session.connections.lookup subject = none :=
      Option.not_isSome_iff_eq_none.mp isTaken
    simp only [if_neg isTaken, connection?_act]
    by_cases same : name = subject
    · subst subject
      simp only [connection?, isFree, List.lookup_append, Option.none_or, List.lookup_cons_self,
        if_true, Option.map_some, proceed_surroundings, Surroundings.react]
      rfl
    · have different : (name == subject) = false := beq_false_of_ne same
      simp only [if_neg same, connection?, List.lookup_append, List.lookup_cons, different,
        List.lookup_nil, Option.or_none]
      cases session.connections.lookup name with
      | none => simp [Surroundings.react, Ne.symm same]
      | some connection => rfl

theorem connection?_actAll_proceed (later : Session)
    (sameConnections : later.connections = session.connections)
    (distinct : session.names.Nodup) (unopened : event ≠ .opened name)
    (wakes : event.wakes name = true)
    (shifted : later.surroundings = session.surroundings.after event)
    (unchanged : ∀ connection, event.change name connection = connection) :
    (later.actAll later.proceed).1.connection? name =
      session.surroundings.react name event (session.connection? name) := by
  have laterDistinct : later.names.Nodup := by
    simp only [names, sameConnections]
    exact distinct
  have sameConnection : later.connection? name = session.connection? name := by
    simp only [connection?, sameConnections]
  simp only [connection?_actAll laterDistinct, sameConnection, proceed_surroundings, shifted]
  cases session.connection? name with
  | none => simp [Surroundings.react, unopened]
  | some connection => simp [Surroundings.react, wakes, unchanged]

/-- What becomes of a connection in a step. -/
theorem connection?_step (distinct : session.names.Nodup) (name : String) (event : Event) :
    (session.step event).1.connection? name =
      session.surroundings.react name event (session.connection? name) := by
  cases event with
  | opened subject => exact connection?_connect subject
  | sent subject side bytes =>
      exact connection?_react nofun rfl rfl fun connection same => if_pos same
  | closed subject side =>
      exact connection?_react nofun rfl rfl fun connection same => if_pos same
  | dropped subject side =>
      exact connection?_react nofun rfl rfl fun connection same => if_pos same
  | elapsed milliseconds =>
      exact connection?_actAll_proceed _ rfl distinct nofun rfl rfl fun _ => rfl
  | shutdown => exact connection?_actAll_proceed _ rfl distinct nofun rfl rfl fun _ => rfl

end Steps

section Runs

/-- The session after a number of events. -/
def run (limits : LimitsByKind) (events : List Event) : Session :=
  events.foldl (fun session event => (session.step event).1) (.start limits)

theorem run_append (limits : LimitsByKind) (first later : List Event) :
    run limits (first ++ later) =
      later.foldl (fun session event => (session.step event).1) (run limits first) := by
  simp only [run, List.foldl_append]

theorem run_concat (limits : LimitsByKind) (events : List Event) (event : Event) :
    run limits (events ++ [event]) = ((run limits events).step event).1 := by
  simp only [run_append]
  rfl

/-- What holds in the beginning and is kept by every event holds after any number of them. -/
theorem run_induction {limits : LimitsByKind} {motive : List Event → Session → Prop}
    (start : motive [] (.start limits))
    (step : ∀ events event, motive events (run limits events) →
      motive (events ++ [event]) ((run limits events).step event).1)
    (events : List Event) : motive events (run limits events) := by
  induction events using List.reverseRecOn with
  | nil => exact start
  | append_singleton events event ih =>
      simp only [run_concat]
      exact step events event ih

theorem limits_run (limits : LimitsByKind) (events : List Event) :
    (run limits events).limits = limits := by
  apply run_induction (motive := fun _ session => session.limits = limits)
  · rfl
  · intro events event same
    exact (limits_step _ event).trans same

theorem nodup_names_run (limits : LimitsByKind) (events : List Event) :
    (run limits events).names.Nodup := by
  apply run_induction (motive := fun _ session => session.names.Nodup)
  · exact List.nodup_nil
  · intro events event nodup
    exact nodup_names_step nodup

theorem connection?_run_concat (limits : LimitsByKind) (events : List Event) (name : String)
    (event : Event) : (run limits (events ++ [event])).connection? name =
      (run limits events).surroundings.react name event
        ((run limits events).connection? name) := by
  rw [run_concat, connection?_step (nodup_names_run limits events)]

/-- What holds of a connection that was just made, and is kept by its peers and its handler,
holds of every connection. -/
theorem connection_induction {limits : LimitsByKind} {name : String}
    {motive : Connection → Prop} (start : ∀ now, motive (.start limits now))
    (change : ∀ event connection, motive connection → motive (Event.change name event connection))
    (settle : ∀ now connection, motive connection → motive (connection.settle limits now).1)
    (interrupt : ∀ connection, motive connection → motive connection.interrupt.1)
    {events : List Event} {connection : Connection}
    (found : (run limits events).connection? name = some connection) : motive connection := by
  have proceed : ∀ {surroundings : Surroundings} {connection : Connection},
      surroundings.limits = limits → motive connection →
        motive (surroundings.proceed connection) := by
    intro surroundings connection sameLimits holds
    simp only [Surroundings.proceed, sameLimits]
    split
    · exact interrupt connection holds
    · exact settle _ connection holds
  induction events using List.reverseRecOn generalizing connection with
  | nil => cases found
  | append_singleton events event ih =>
      have sameLimits : (run limits events).surroundings.limits = limits :=
        limits_run limits events
      rw [connection?_run_concat] at found
      rcases Surroundings.opened_or_continued_of_react found with
        ⟨_, _, rfl⟩ | ⟨earlier, before, rfl | ⟨_, rfl⟩⟩
      · rw [Surroundings.opened, sameLimits]
        exact proceed sameLimits (start _)
      · apply proceed ((Surroundings.limits_after _ event).trans sameLimits)
        exact change event earlier (ih before)
      · exact ih before

/-- Only the peers do anything to a connection whose handler has returned. -/
theorem ended_foldl (later : List Event) {limits : LimitsByKind} {events : List Event}
    {name : String} {connection : Connection}
    (found : (run limits events).connection? name = some connection)
    (ended : connection.stage = .ended) :
    ∃ last, (later.foldl (fun session event => (session.step event).1)
        (run limits events)).connection? name = some last ∧
      last.stage = .ended ∧ ∀ side, last.output side = connection.output side := by
  simp only [← run_append]
  induction later using List.reverseRecOn with
  | nil =>
      rw [List.append_nil]
      exact ⟨connection, found, ended, fun _ => rfl⟩
  | append_singleton later event ih =>
      rcases ih with ⟨last, foundLast, endedLast, output⟩
      refine ⟨event.change name last, ?_, (event.stage_change name last).trans endedLast, ?_⟩
      · rw [← List.append_assoc, connection?_run_concat, foundLast,
          Surroundings.react_of_ended endedLast]
      · intro side
        exact (event.output_change name last side).trans (output side)

end Runs

end Session

end HttpRelay
