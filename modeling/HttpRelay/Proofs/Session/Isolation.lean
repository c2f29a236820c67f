import HttpRelay.Proofs.Session.Evolution

/-!
# Isolation

No event that names one connection changes anything that another one notices, so that a
connection takes the same course whatever happens to the others, and its peers see the same of
it (`observed_filter`).

The tracker and the metrics are shared as well, but no handler reads them.
-/

namespace HttpRelay

namespace Session

/-- Whether an event is about the connection of a name, or about all connections. -/
def Event.isSeenBy (name : String) : Event → Bool
  | .opened other | .sent other _ _ | .closed other _ | .dropped other _ => other == name
  | .elapsed _ | .shutdown => true

variable {session : Session} {name : String} {event : Event}

namespace Surroundings

variable {surroundings : Surroundings}

theorem after_of_not_seen (notSeen : event.isSeenBy name = false) :
    surroundings.after event = surroundings := by
  cases event <;> simp_all [Event.isSeenBy, after]

theorem react_of_not_seen (notSeen : event.isSeenBy name = false)
    (connection? : Option Connection) :
    surroundings.react name event connection? = connection? := by
  cases connection? with
  | none =>
      cases event <;> simp_all [Event.isSeenBy, react]
  | some connection =>
      cases event <;> simp_all [Event.isSeenBy, Event.wakes, react]

end Surroundings

/-- What the peers of the connection of a name see at each event that they see, since the one
before, which led to the session `last`. -/
def observed (name : String) (last session : Session) :
    List Event → List (Option ConnectionView)
  | [] => []
  | event :: events =>
      let next := (session.step event).1
      if event.isSeenBy name then
        (last.view next).lookup name :: observed name next next events
      else observed name last next events

theorem lookup_view (before session : Session) (name : String) :
    (before.view session).lookup name =
      (session.connection? name).map (Connection.view (before.connection? name)) := by
  simp only [view, connection?]
  induction session.connections with
  | nil => rfl
  | cons entry entries ih =>
      rcases entry with ⟨first, connection⟩
      simp only [List.map_cons, List.lookup_cons, ih]
      by_cases isFirst : name = first
      · subst first
        simp
      · simp [beq_false_of_ne isFirst]

/-- Two sessions that the connection of a name cannot tell apart. -/
structure AgreeOn (name : String) (first second : Session) : Prop where
  surroundings : first.surroundings = second.surroundings
  connection : first.connection? name = second.connection? name
  distinct : first.names.Nodup ∧ second.names.Nodup

namespace AgreeOn

variable {first second : Session}

theorem step (agree : AgreeOn name first second) (event : Event) :
    AgreeOn name (first.step event).1 (second.step event).1 where
  surroundings := by
    simp only [surroundings_step, agree.surroundings]
  connection := by
    simp only [connection?_step agree.distinct.1, connection?_step agree.distinct.2,
      agree.surroundings, agree.connection]
  distinct := ⟨nodup_names_step agree.distinct.1, nodup_names_step agree.distinct.2⟩

theorem step_of_not_seen (agree : AgreeOn name first second)
    (notSeen : event.isSeenBy name = false) : AgreeOn name (first.step event).1 second where
  surroundings := by
    simp only [surroundings_step, Surroundings.after_of_not_seen notSeen, agree.surroundings]
  connection := by
    simp only [connection?_step agree.distinct.1, Surroundings.react_of_not_seen notSeen,
      agree.connection]
  distinct := ⟨nodup_names_step agree.distinct.1, agree.distinct.2⟩

theorem observed {last : Session} (agree : AgreeOn name first second)
    (unmoved : last.connection? name = second.connection? name) (events : List Event) :
    observed name last first events =
      Session.observed name second second (events.filter (·.isSeenBy name)) := by
  induction events generalizing first second last with
  | nil => rfl
  | cons event events ih =>
      cases seen : event.isSeenBy name with
      | true =>
          have next := agree.step event
          simp only [List.filter_cons, seen, if_true, Session.observed, lookup_view,
            next.connection, unmoved, ih next next.connection]
      | false =>
          have next := agree.step_of_not_seen seen
          simp only [List.filter_cons, seen, Bool.false_eq_true, if_false, Session.observed,
            ih next unmoved]

end AgreeOn

/-- The peers of a connection see what they would see if no event named any other
connection. -/
theorem observed_filter (limits : LimitsByKind) (name : String) (events : List Event) :
    observed name (start limits) (start limits) events =
      observed name (start limits) (start limits) (events.filter (·.isSeenBy name)) := by
  have agree : AgreeOn name (start limits) (start limits) :=
    ⟨rfl, rfl, List.nodup_nil, List.nodup_nil⟩
  exact agree.observed rfl events

end Session

end HttpRelay
