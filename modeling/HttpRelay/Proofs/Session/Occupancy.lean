import Mathlib.Algebra.GroupWithZero.Nat
import HttpRelay.Proofs.Relay.Boundaries
import HttpRelay.Proofs.Relay.Truncation
import HttpRelay.Proofs.Session.Counting
import HttpRelay.Proofs.Session.Interleaving

/-!
# Who is busy

The two counts of a session can be told from what the clients sent. A handler is active until it
returns. It is busy if its client has sent more than the requests of the exchanges that are
complete: the next request has begun then, and its response has not ended. Whatever else happens,
pipelined requests, early responses, peers that go away, timeouts or shutdown, leaves no trace in
the counts (`Session.counts_run`).
-/

namespace HttpRelay

/-- How many bytes a message took on its way in. -/
def Message.receivedLength (message : Message) : Nat :=
  message.header.receivedLength + message.body.length

/-- How many bytes a number of messages took together. -/
def Message.occupied (messages : List Message) : Nat :=
  (messages.map Message.receivedLength).sum

namespace Message

variable {kind : Kind} {limits : Limits} {stream rest behind : Bytes} {message : Message}
  {messages : List Message}

theorem IsFirst.ne_nil (isFirst : IsFirst kind limits message stream rest) : stream ≠ [] := by
  rcases isFirst.block with ⟨block, fields, _, accepts⟩
  have positive := accepts.receivedLength_pos
  have length := isFirst.length_eq
  rintro rfl
  simp only [List.length_nil] at length
  omega

theorem Successive.length_eq (successive : Successive kind limits stream messages behind) :
    stream.length = occupied messages + behind.length := by
  induction successive with
  | none stream => simp only [occupied, List.map_nil, List.sum_nil, Nat.zero_add]
  | next isFirst others ih =>
      have length := isFirst.length_eq
      simp only [occupied, List.map_cons, List.sum_cons, receivedLength] at ih ⊢
      omega

theorem Successive.occupied_lt_iff (successive : Successive kind limits stream messages behind) :
    occupied messages < stream.length ↔ behind ≠ [] := by
  have length := successive.length_eq
  rw [← List.length_pos_iff]
  omega

end Message

/-- A pass has begun exactly if it took a byte. -/
theorem Pass.Tracks.hasStarted_iff {kind : Kind} {limits : Limits} {origin : Sink}
    {taken : Bytes} {flow : Flow Pass} (tracks : Pass.Tracks kind limits origin taken flow) :
    flow.progress.hasStarted = true ↔ taken ≠ [] := by
  rcases flow with ⟨receiver | ⟨header, body⟩, sink⟩
  · have count := Receiver.taken_scan tracks.2
    simp only [Receiver.start, Nat.zero_add] at count
    simp only [Pass.hasStarted, Receiver.hasStarted, count, bne_iff_ne, ne_eq,
      List.length_eq_zero_iff]
  · rcases tracks with ⟨block, fields, relayed, begun, rfl, accepts, _⟩
    have positive := accepts.receivedLength_pos
    rw [accepts.receivedLength] at positive
    simp only [Pass.hasStarted, true_iff, ne_eq, List.append_eq_nil_iff, not_and_or]
    exact Or.inl (List.ne_nil_of_length_pos positive)

namespace Connection

variable {limits : LimitsByKind} {streams : Kind → Bytes} {now : Nat} {connection : Connection}

/-- The requests of all exchanges that a connection has completed, and what its client sent
behind them. -/
structure Completes (limits : LimitsByKind) (stream : Bytes) (requests : List Message)
    (behind : Bytes) (connection : Connection) : Prop where
  number : requests.length = connection.exchanges
  successive : Message.Successive .request limits.request stream requests behind

/-- A handler that has done what it can do is busy if its client sent anything behind the
requests of the complete exchanges. -/
theorem Tracks.exists_completes (tracks : connection.Tracks limits streams)
    (rests : connection.Rests now) :
    ∃ requests behind, connection.Completes limits (streams .request) requests behind ∧
      connection.guard? = if connection.hasEnded then none else some (decide (behind ≠ [])) := by
  cases stage : connection.stage with
  | ended =>
      rcases tracks.relays with ⟨messages, behind, parts, relays⟩
      refine ⟨_, _, ⟨relays.number .request, relays.successive .request⟩, ?_⟩
      simp only [guard?, hasEnded, stage, beq_self_eq_true, if_true]
  | passing kind pass deadline =>
      have goesOn : connection.hasEnded = false := by
        simp only [hasEnded, stage]
        rfl
      rcases (tracks_iff_of_passing stage).mp tracks with
        ⟨origin, taken, messages, behind, surrounds, reads, tracks⟩
      rw [(rests stage).1, List.append_nil] at reads
      simp only [guard?, stage, goesOn, Bool.false_eq_true, if_false]
      cases kind with
      | request =>
          refine ⟨_, _, ⟨surrounds.requests, surrounds.successive .request⟩, ?_⟩
          have hasStarted := tracks.hasStarted_iff
          rw [← reads] at hasStarted
          exact congrArg some (Bool.eq_iff_iff.mpr (hasStarted.trans decide_eq_true_iff.symm))
      | response =>
          -- The request that is being answered is not one of a complete exchange.
          rcases (surrounds.successive .request).split_last surrounds.requests with
            ⟨earlier, request, between, _, number, successive, isFirst⟩
          refine ⟨earlier, between, ⟨number, successive⟩, ?_⟩
          exact congrArg some (decide_eq_true isFirst.ne_nil).symm

end Connection

namespace Session

variable {limits : LimitsByKind} {events : List Event} {session : Session} {name : String}

theorem wireAfter_eq_absent_iff {side : Side} :
    wireAfter name side events = .absent ↔ .opened name ∉ events := by
  constructor
  · exact not_opened_of_absent
  · intro unopened
    induction events using List.reverseRecOn with
    | nil => rfl
    | append_singleton events event ih =>
        simp only [List.mem_append, List.mem_singleton, not_or] at unopened
        rw [wireAfter_concat]
        exact Wire.accept_eq_absent_iff.mpr ⟨ih unopened.1, Ne.symm unopened.2⟩

theorem mem_names_run_iff : name ∈ (run limits events).names ↔ .opened name ∈ events := by
  have isKnown := isKnown_run limits events name
  rw [mem_names_iff]
  cases found : (run limits events).connection? name with
  | none =>
      rw [found] at isKnown
      simp only [Option.isSome_none, Bool.false_eq_true, false_iff]
      exact wireAfter_eq_absent_iff.mp (isKnown .client)
  | some connection =>
      rw [found] at isKnown
      rcases isKnown with ⟨sent, follows⟩
      simp only [Option.isSome_some, true_iff]
      by_contra unopened
      have absent : wireAfter name .client events = .absent :=
        wireAfter_eq_absent_iff.mpr unopened
      exact Wire.absent_ne_of (absent.symm.trans (follows.wires .client))

/-- Every guard belongs to a connection whose handler has not returned. -/
theorem IsTallied.perm_guards (tallied : session.IsTallied) (distinct : session.names.Nodup) :
    session.roster.guards.Perm
      (session.connections.filterMap fun entry => entry.2.guard?.map (entry.1, ·)) := by
  apply (List.perm_ext_iff_of_nodup ?_ ?_).mpr
  · rintro ⟨name, isBusy⟩
    rw [tallied.exact.mem_guards_iff, tallied.guards]
    simp only [List.mem_filterMap, Option.map_eq_some_iff, Prod.mk.injEq, Option.bind_eq_some_iff]
    constructor
    · rintro ⟨connection, found, guarded⟩
      exact ⟨(name, connection), (Entries.mem_iff_lookup distinct).mpr found, _, guarded, rfl, rfl⟩
    · rintro ⟨⟨_, connection⟩, isIn, _, guarded, rfl, rfl⟩
      exact ⟨connection, (Entries.mem_iff_lookup distinct).mp isIn, guarded⟩
  · exact List.Nodup.of_map _ tallied.exact.distinct
  · apply List.Nodup.of_map Prod.fst
    exact distinct.sublist (Entries.map_fst_filterMap_sublist _ _)

theorem IsTallied.counts (tallied : session.IsTallied) (distinct : session.names.Nodup)
    {isBusy : String × Connection → Bool}
    (guarded : ∀ entry ∈ session.connections,
      entry.2.guard? = if entry.2.hasEnded then none else some (isBusy entry)) :
    session.roster.tracker.active =
        session.connections.countP (fun entry => !entry.2.hasEnded) ∧
      session.roster.tracker.busy =
        session.connections.countP fun entry => !entry.2.hasEnded && isBusy entry := by
  have perm := tallied.perm_guards distinct
  rw [tallied.exact.active, tallied.exact.busy, perm.length_eq, perm.countP_eq,
    List.length_filterMap_eq_countP, List.countP_filterMap]
  constructor
  · apply List.countP_congr
    intro entry isIn
    rw [guarded entry isIn]
    cases entry.2.hasEnded <;> simp
  · apply List.countP_congr
    intro entry isIn
    rw [guarded entry isIn]
    cases entry.2.hasEnded <;> simp

/-- What is known of a connection and its guard once everything is at rest. -/
structure IsOccupied (limits : LimitsByKind) (stream : Bytes) (requests : List Message)
    (connection : Connection) : Prop where
  completes : ∃ behind, connection.Completes limits stream requests behind
  guard : connection.guard? =
    if connection.hasEnded then none else some (decide (Message.occupied requests < stream.length))

theorem exists_isOccupied {connection : Connection}
    (found : (run limits events).connection? name = some connection) :
    ∃ requests, IsOccupied limits (sentBy name .client events) requests connection := by
  have isKnown := isKnown_run limits events name
  rw [found] at isKnown
  rcases isKnown with ⟨sent, follows⟩
  have stream : sentBy name .client events = sent .client := by
    rw [sentBy, follows.wires, Wire.bytes_of]
  rcases follows.tracks.exists_completes (isAtRest_run found).rests with
    ⟨requests, behind, completes, guarded⟩
  refine ⟨requests, ?_, ?_⟩
  · rw [stream]
    exact ⟨behind, completes⟩
  · have isBehind : Message.occupied requests < (sent .client).length ↔ behind ≠ [] :=
      completes.successive.occupied_lt_iff
    simp only [stream, guarded, isBehind]

theorem exists_requests (limits : LimitsByKind) (events : List Event) :
    ∃ requests : String → List Message, ∀ name connection,
      (run limits events).connection? name = some connection →
        IsOccupied limits (sentBy name .client events) (requests name) connection := by
  have each : ∀ name, ∃ requests, ∀ connection,
      (run limits events).connection? name = some connection →
        IsOccupied limits (sentBy name .client events) requests connection := by
    intro name
    rcases Option.eq_none_or_eq_some ((run limits events).connection? name) with
      absent | ⟨connection, found⟩
    · refine ⟨[], ?_⟩
      intro connection found
      cases absent.symm.trans found
    · rcases exists_isOccupied found with ⟨requests, isOccupied⟩
      refine ⟨requests, ?_⟩
      intro other otherFound
      cases found.symm.trans otherFound
      exact isOccupied
  choose requests isOccupied using each
  exact ⟨requests, isOccupied⟩

/-- After any events, the active handlers are those that have not returned, and the busy ones
are those of them whose client has sent more than the requests that are completely dealt with. -/
theorem counts_run (limits : LimitsByKind) (events : List Event) :
    let session := run limits events
    let tracker := session.roster.tracker
    session.names.Nodup ∧ (∀ name, name ∈ session.names ↔ .opened name ∈ events) ∧
      ∃ requests : String → List Message,
        let isBusy (entry : String × Connection) : Bool :=
          decide (Message.occupied (requests entry.1) < (sentBy entry.1 .client events).length)
        (∀ entry ∈ session.connections,
          (∃ behind, entry.2.Completes limits (sentBy entry.1 .client events) (requests entry.1)
            behind) ∧
          session.roster.isBusy? entry.1 =
            if entry.2.hasEnded then none else some (isBusy entry)) ∧
        tracker.active = session.connections.countP (fun entry => !entry.2.hasEnded) ∧
        tracker.busy = session.connections.countP (fun entry => !entry.2.hasEnded && isBusy entry) ∧
        tracker.busy ≤ tracker.active ∧
        ((∀ entry ∈ session.connections, entry.2.hasEnded = true) →
          tracker.active = 0 ∧ tracker.busy = 0) := by
  intro session tracker
  have distinct : session.names.Nodup := nodup_names_run limits events
  have tallied : session.IsTallied := isTallied_run limits events
  rcases exists_requests limits events with ⟨requests, isOccupied⟩
  refine ⟨distinct, fun name => mem_names_run_iff, requests, ?_⟩
  intro isBusy
  have found : ∀ entry ∈ session.connections, session.connection? entry.1 = some entry.2 := by
    intro entry isIn
    exact (Entries.mem_iff_lookup distinct).mp isIn
  have guarded : ∀ entry ∈ session.connections,
      entry.2.guard? = if entry.2.hasEnded then none else some (isBusy entry) := by
    intro entry isIn
    exact (isOccupied entry.1 entry.2 (found entry isIn)).guard
  rcases tallied.counts distinct guarded with ⟨active, busy⟩
  refine ⟨?_, active, busy, ?_, ?_⟩
  · intro entry isIn
    refine ⟨(isOccupied entry.1 entry.2 (found entry isIn)).completes, ?_⟩
    rw [tallied.guards, found entry isIn]
    exact guarded entry isIn
  · simp only [tracker, active, busy]
    apply List.countP_mono_left
    intro entry _ isCounted
    exact (Bool.and_eq_true _ _ ▸ isCounted).1
  · intro ended
    apply tallied.counts_of_ended
    intro name connection isThere
    have isIn := (Entries.mem_iff_lookup distinct).mpr isThere
    exact beq_iff_eq.mp (ended _ isIn)

end Session

end HttpRelay
