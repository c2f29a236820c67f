import HttpRelay.Proofs.Session.Evolution
import HttpRelay.Proofs.Session.Relaying

/-!
# The order of exchanges

Whatever happens to a session, in whatever order, every connection relays the messages of its
peers in turn: what each peer got is determined by what the other one sent, up to where the
handler is. Once a handler has returned, nothing that happens later adds a byte to what the
peers of its connection got.
-/

namespace HttpRelay

/-- What a peer of a connection has sent, as far as the connection is there. -/
inductive Wire where
  | absent
  | sending (bytes : Bytes)
  /-- The peer has stopped sending. -/
  | finished (bytes : Bytes)
  deriving DecidableEq, Repr

namespace Wire

def bytes : Wire → Bytes
  | absent => []
  | sending bytes | finished bytes => bytes

/-- What an event does to the wire at one side of the connection of a name. -/
def accept (name : String) (side : Side) (wire : Wire) (event : Session.Event) : Wire :=
  match wire, event with
  | absent, .opened other => if other = name then sending [] else absent
  | sending bytes, .sent other origin more =>
      if other = name ∧ origin = side then sending (bytes ++ more) else sending bytes
  | sending bytes, .closed other origin | sending bytes, .dropped other origin =>
      if other = name ∧ origin = side then finished bytes else sending bytes
  | wire, _ => wire

def of (isClosed : Bool) (bytes : Bytes) : Wire :=
  if isClosed then finished bytes else sending bytes

@[simp]
theorem bytes_of (isClosed : Bool) (bytes : Bytes) : (of isClosed bytes).bytes = bytes := by
  cases isClosed <;> rfl

theorem of_inj {isClosed otherClosed : Bool} {bytes other : Bytes}
    (same : of isClosed bytes = of otherClosed other) :
    isClosed = otherClosed ∧ bytes = other := by
  cases isClosed <;> cases otherClosed <;> cases same <;> exact ⟨rfl, rfl⟩

theorem absent_ne_of {isClosed : Bool} {bytes : Bytes} : absent ≠ of isClosed bytes := by
  cases isClosed <;> exact nofun

variable {name : String} {side : Side}

theorem accept_of_not_concerns (wire : Wire) {event : Session.Event}
    (other : ¬event.concerns name) : wire.accept name side event = wire := by
  cases wire <;> cases event <;> simp_all [Session.Event.concerns, accept]

theorem accept_eq_absent_iff {wire : Wire} {event : Session.Event} :
    wire.accept name side event = absent ↔ wire = absent ∧ event ≠ .opened name := by
  cases wire with
  | absent => cases event <;> simp [accept]
  | finished bytes => cases event <;> simp [accept]
  | sending bytes =>
      cases event <;> simp [accept] <;> split <;> simp

theorem accept_absent : absent.accept name side (.opened name) = of false [] :=
  if_pos rfl

theorem accept_opened (isClosed : Bool) (bytes : Bytes) :
    (of isClosed bytes).accept name side (.opened name) = of isClosed bytes := by
  cases isClosed <;> rfl

theorem accept_sent (isClosed : Bool) (bytes more : Bytes) (origin : Side) :
    (of isClosed bytes).accept name side (.sent name origin more) =
      of isClosed (bytes ++ if origin = side ∧ isClosed = false then more else []) := by
  cases isClosed with
  | true => simp [of, accept]
  | false => by_cases same : origin = side <;> simp [of, accept, same]

theorem accept_closed (isClosed : Bool) (bytes : Bytes) (origin : Side) :
    (of isClosed bytes).accept name side (.closed name origin) =
      of (isClosed || origin = side) bytes := by
  cases isClosed with
  | true => rfl
  | false => by_cases same : origin = side <;> simp [of, accept, same]

theorem accept_dropped (wire : Wire) (origin : Side) :
    wire.accept name side (.dropped name origin) = wire.accept name side (.closed name origin) := by
  cases wire <;> rfl

end Wire

namespace Connection

theorem isClosed_start (limits : LimitsByKind) (now : Nat) (side : Side) :
    (start limits now).isClosed side = false := by
  cases side <;> rfl

theorem isClosed_send (connection : Connection) (origin : Side) (bytes : Bytes) (side : Side) :
    (connection.modifyPeer origin (·.send bytes)).isClosed side = connection.isClosed side := by
  cases origin <;> cases side <;>
    simp [isClosed, modifyPeer, Sides.get, Sides.modify, Peer.send] <;> split <;> rfl

theorem isClosed_close (connection : Connection) (origin side : Side) :
    (connection.modifyPeer origin (·.close)).isClosed side =
      (connection.isClosed side || origin = side) := by
  cases origin <;> cases side <;> simp [isClosed, modifyPeer, Sides.get, Sides.modify, Peer.close]

theorem isClosed_leave (connection : Connection) (origin side : Side) :
    (connection.modifyPeer origin (·.leave)).isClosed side =
      (connection.isClosed side || origin = side) := by
  cases origin <;> cases side <;> simp [isClosed, modifyPeer, Sides.get, Sides.modify, Peer.leave]

end Connection

namespace Session.Event

section Change

variable (name : String) (event : Event) (connection : Connection) (side : Side)

/-- What an event adds to what a peer sent. -/
def adds : Bytes :=
  match event with
  | .sent other origin bytes =>
      if other = name ∧ origin = side ∧ connection.isClosed side = false then bytes else []
  | .opened _ | .closed .. | .dropped .. | .elapsed _ | .shutdown => []

theorem inbox_change : ((event.change name connection).peers.get side).inbox =
    (connection.peers.get side).inbox ++ event.adds name connection side := by
  cases event with
  | opened | elapsed | shutdown => exact (List.append_nil _).symm
  | sent other origin bytes =>
      simp only [change, adds]
      by_cases same : other = name
      · cases closed : connection.isClosed side <;> cases origin <;> cases side <;>
          simp_all [Connection.modifyPeer, Sides.get, Sides.modify, Peer.send, Connection.isClosed]
      · simp [same]
  | closed other origin =>
      simp only [change, adds, List.append_nil]
      split
      · cases origin <;> cases side <;> rfl
      · rfl
  | dropped other origin =>
      simp only [change, adds, List.append_nil]
      split
      · cases origin <;> cases side <;> rfl
      · rfl

theorem wire_change (bytes : Bytes) :
    (Wire.of (connection.isClosed side) bytes).accept name side event =
      .of ((event.change name connection).isClosed side)
        (bytes ++ event.adds name connection side) := by
  by_cases concerned : event.concerns name
  · cases event with
    | opened other =>
        cases concerned
        simp only [Wire.accept_opened, adds, List.append_nil]
        rfl
    | sent other origin more =>
        cases concerned
        simp only [Wire.accept_sent, adds, change, if_true, Connection.isClosed_send, true_and]
    | closed other origin =>
        cases concerned
        simp only [Wire.accept_closed, adds, change, if_true, Connection.isClosed_close,
          List.append_nil]
    | dropped other origin =>
        cases concerned
        simp only [Wire.accept_dropped, Wire.accept_closed, adds, change, if_true,
          Connection.isClosed_leave, List.append_nil]
    | elapsed milliseconds => cases concerned
    | shutdown => cases concerned
  · have nothing : event.adds name connection side = [] := by
      cases event <;> simp_all [concerns, adds]
    simp only [Wire.accept_of_not_concerns _ concerned, nothing, List.append_nil,
      change_of_not_concerns concerned]

end Change

end Session.Event

namespace Connection

variable {limits : LimitsByKind} {streams : Kind → Bytes} {wire : Side → Wire}
  {sent : Side → Bytes} {name : String} {before after : Connection}

theorem Tracks.proceed {surroundings : Session.Surroundings}
    (tracks : Tracks surroundings.limits streams before) :
    Tracks surroundings.limits streams (surroundings.proceed before) := by
  simp only [Session.Surroundings.proceed]
  split
  · exact tracks.interrupt
  · exact tracks.settle _

theorem Tracks.change {sent : Side → Bytes}
    (tracks : Tracks limits (fun kind => sent kind.origin) before) (name : String)
    (event : Session.Event) :
    Tracks limits (fun kind => sent kind.origin ++ event.adds name before kind.origin)
      (event.change name before) := by
  by_cases leaves : ∃ side, event = .dropped name side
  · rcases leaves with ⟨side, rfl⟩
    simp only [Session.Event.adds, List.append_nil, Session.Event.change, if_true]
    exact tracks.leave side
  · apply tracks.append
    · exact event.stage_change name before
    · exact event.exchanges_change name before
    · intro kind
      exact event.inbox_change name before kind.origin
    · intro kind
      apply Session.Event.sink_change
      intro side isLeaving
      exact leaves ⟨side, isLeaving⟩

/-- A connection whose peers sent the given streams on their wires. -/
structure Follows (limits : LimitsByKind) (wire : Side → Wire) (streams : Side → Bytes)
    (connection : Connection) : Prop where
  wires : ∀ side, wire side = .of (connection.isClosed side) (streams side)
  tracks : connection.Tracks limits fun kind => streams kind.origin

theorem Follows.proceed {surroundings : Session.Surroundings}
    (follows : Follows surroundings.limits wire sent before) :
    Follows surroundings.limits wire sent (surroundings.proceed before) where
  wires side := by
    simp only [Session.Surroundings.isClosed_proceed]
    exact follows.wires side
  tracks := follows.tracks.proceed

/-- The peers of a connection do what an event says. -/
theorem Follows.change (follows : Follows limits wire sent before) (name : String)
    (event : Session.Event) :
    ∃ sent, Follows limits (fun side => (wire side).accept name side event) sent
      (event.change name before) := by
  refine ⟨fun side => sent side ++ event.adds name before side, ?_, ?_⟩
  · intro side
    simp only [follows.wires, event.wire_change]
  · exact follows.tracks.change name event

/-- What the wires of a name say of its connection, if there is one. -/
def IsKnown (limits : LimitsByKind) (wire : Side → Wire) : Option Connection → Prop
  | none => ∀ side, wire side = .absent
  | some connection => ∃ sent, Follows limits wire sent connection

theorem IsKnown.react {surroundings : Session.Surroundings} {connection? : Option Connection}
    (isKnown : IsKnown surroundings.limits wire connection?) (name : String)
    (event : Session.Event) :
    IsKnown surroundings.limits (fun side => (wire side).accept name side event)
      (surroundings.react name event connection?) := by
  cases connection? with
  | none =>
      by_cases isOpening : event = .opened name
      · subst event
        have started : Follows surroundings.limits
            (fun side => (wire side).accept name side (.opened name)) (fun _ => [])
            (.start surroundings.limits surroundings.now) := by
          refine ⟨?_, tracks_start _ _⟩
          intro side
          simp only [isKnown side, isClosed_start, Wire.accept_absent]
        simp only [Session.Surroundings.react, if_true]
        exact ⟨_, started.proceed⟩
      · simp only [Session.Surroundings.react, if_neg isOpening]
        intro side
        exact Wire.accept_eq_absent_iff.mpr ⟨isKnown side, isOpening⟩
  | some connection =>
      rcases isKnown with ⟨sent, follows⟩
      rcases follows.change name event with ⟨sent, changed⟩
      refine ⟨sent, ?_⟩
      split
      · rw [← surroundings.limits_after event] at changed ⊢
        exact changed.proceed
      · rename_i asleep
        rw [Session.Event.change_of_not_wakes (eq_false_of_ne_true asleep)] at changed
        exact changed

end Connection

namespace Session

variable {limits : LimitsByKind} {name : String}

/-- The wire at one side of the connection of a name after a number of events. -/
def wireAfter (name : String) (side : Side) (events : List Event) : Wire :=
  events.foldl (Wire.accept name side) .absent

/-- What a peer of the connection of a name sent. -/
def sentBy (name : String) (side : Side) (events : List Event) : Bytes :=
  (wireAfter name side events).bytes

theorem wireAfter_concat (name : String) (side : Side) (events : List Event) (event : Event) :
    wireAfter name side (events ++ [event]) =
      (wireAfter name side events).accept name side event := by
  simp only [wireAfter, List.foldl_append]
  rfl

theorem not_opened_of_absent {side : Side} {events : List Event}
    (absent : wireAfter name side events = .absent) : .opened name ∉ events := by
  induction events using List.reverseRecOn with
  | nil => exact List.not_mem_nil
  | append_singleton events event ih =>
      simp only [wireAfter_concat] at absent
      rcases Wire.accept_eq_absent_iff.mp absent with ⟨before, other⟩
      intro isMember
      rcases List.mem_append.mp isMember with earlier | last
      · exact ih before earlier
      · exact other (List.mem_singleton.mp last).symm

theorem isKnown_run (limits : LimitsByKind) (events : List Event) (name : String) :
    Connection.IsKnown limits (fun side => wireAfter name side events)
      ((run limits events).connection? name) := by
  apply run_induction (motive := fun events session =>
    Connection.IsKnown limits (fun side => wireAfter name side events) (session.connection? name))
  · exact fun _ => rfl
  · intro events event isKnown
    have sameLimits : (run limits events).surroundings.limits = limits := limits_run limits events
    rw [← sameLimits] at isKnown
    have next := isKnown.react name event
    simp only [connection?_step (nodup_names_run limits events), wireAfter_concat]
    rw [sameLimits] at next
    exact next

/-- Every connection of a session relays requests and responses in turn, and what its peers
got stays as it is once its handler has returned. -/
theorem relays_run (limits : LimitsByKind) (events later : List Event) (name : String) :
    (run limits events).names.Nodup ∧
      match (run limits events).connection? name with
      | none => .opened name ∉ events
      | some connection =>
          (∃ messages behind parts,
            connection.Relays limits (fun kind => sentBy name kind.origin events) messages behind
              parts) ∧
          (connection.hasEnded = true →
            ∃ last, (run limits (events ++ later)).connection? name = some last ∧
              last.hasEnded = true ∧ ∀ side, last.output side = connection.output side) := by
  refine ⟨nodup_names_run limits events, ?_⟩
  have isKnown := isKnown_run limits events name
  cases found : (run limits events).connection? name with
  | none =>
      simp only [found] at isKnown
      exact not_opened_of_absent (isKnown .client)
  | some connection =>
      simp only [found] at isKnown
      rcases isKnown with ⟨sent, follows⟩
      have streams : (fun kind : Kind => sentBy name kind.origin events) =
          fun kind => sent kind.origin := by
        funext kind
        simp only [sentBy, follows.wires, Wire.bytes_of]
      dsimp only
      simp only [streams]
      refine ⟨follows.tracks.relays, ?_⟩
      intro hasEnded
      simp only [run_append]
      rcases ended_foldl later found (eq_of_beq hasEnded) with ⟨last, foundLast, ended, output⟩
      exact ⟨last, foundLast, beq_iff_eq.mpr ended, output⟩

end Session

end HttpRelay
