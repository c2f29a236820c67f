import HttpRelay.CommandLine
import HttpRelay.Proofs.Config.Violations
import HttpRelay.Proofs.Server.Slots

/-!
# Starting with a valid configuration

The rules ask for a positive number of connections and set no bound on it, but a relay starts only
with as many slots as can be counted. So a valid configuration starts exactly up to that bound
(`Server.start?_iff_of_valid`), and one that is checked successfully need not start
(`Server.start?_uncountable`). A relay that has started uses all its slots (`Server.run_crowd`).
-/

namespace HttpRelay

namespace Config

variable {config : Config}

/-- A configuration with another number of connections. -/
def withSlots (config : Config) (count : UInt64) : Config :=
  { config with listener := { config.listener with maxConnections := count } }

/-- No bound is set on the number of connections. -/
theorem validated_withSlots (valid : config.validated = .ok config) {count : UInt64}
    (positive : 0 < count) : (config.withSlots count).validated = .ok (config.withSlots count) := by
  rw [validated_eq_ok_iff, violations_eq_nil_iff] at valid ⊢
  refine ⟨fun property => ?_, rfl⟩
  have satisfied := valid.1 property
  cases property with
  | maxConnections => exact positive
  | _ => exact satisfied

end Config

namespace Server

variable {limit count : Nat} {server : Server}

theorem start?_eq_some_iff :
    start? limit = some server ↔
      limit ≤ greatestLimit ∧ server = ⟨limit, limit, false, false, [], 0, .none, 0⟩ := by
  rw [start?, Option.ite_none_right_eq_some, Option.some.injEq, eq_comm (b := server)]

/-- So many clients come, one after another. -/
def crowd (count : Nat) : List Event :=
  (List.replicate count [Event.acquired, .accepted]).flatten

/-- A client that comes when there is a free slot is taken. -/
theorem accept_acquire (isRunning : server.isStopping = false) (isIdle : server.isAccepting = false)
    (isFree : 0 < server.free) :
    let joined := server.acquire.accept
    joined.tasks.length = server.tasks.length + 1 ∧ joined.free = server.free - 1 ∧
      joined.isStopping = false ∧ joined.isAccepting = false := by
  have notNone : (server.free == 0) = false := beq_false_of_ne (Nat.ne_of_gt isFree)
  simp [acquire, accept, isRunning, isIdle, notNone]

/-- Where clients are not more than free slots, each of them gets one. -/
theorem run_crowd (isRunning : server.isStopping = false) (isIdle : server.isAccepting = false)
    (enough : count ≤ server.free) :
    let crowded := server.run (crowd count)
    crowded.tasks.length = server.tasks.length + count ∧ crowded.free = server.free - count ∧
      crowded.isStopping = false ∧ crowded.isAccepting = false := by
  induction count generalizing server with
  | zero => exact ⟨rfl, rfl, isRunning, isIdle⟩
  | succ count ih =>
      have others : server.run (crowd (count + 1)) = server.acquire.accept.run (crowd count) := rfl
      rcases accept_acquire isRunning isIdle (by omega) with
        ⟨oneMore, oneLess, goesOn, waitsForNobody⟩
      rcases ih goesOn waitsForNobody (by omega) with ⟨tasks, free, stillRunning, stillIdle⟩
      rw [others]
      exact ⟨by omega, by omega, stillRunning, stillIdle⟩

/-- A relay that has just started takes as many clients as it has slots. -/
theorem run_crowd_of_start? (started : start? limit = some server) (fits : count ≤ limit) :
    let crowded := server.run (crowd count)
    crowded.tasks.length = count ∧ crowded.free = limit - count ∧ crowded.isAccepting = false := by
  rcases start?_eq_some_iff.mp started with ⟨-, rfl⟩
  rcases @run_crowd count ⟨limit, limit, false, false, [], 0, .none, 0⟩ rfl rfl fits with
    ⟨tasks, free, -, isIdle⟩
  exact ⟨tasks.trans (Nat.zero_add count), free, isIdle⟩

/-- A relay without a free slot does not wait for a client. -/
theorem acquire_of_none (isIdle : server.isAccepting = false) (none : server.free = 0) :
    server.acquire = server := by
  simp [acquire, isIdle, none]

/-- A valid configuration starts exactly if its slots can be counted. It then takes as many clients
as it says, which is one at least, and no further one. Any other positive number of connections is
valid in its place, so the rules do not keep a configuration from being one that does not start. -/
theorem start?_iff_of_valid {config : Config} (valid : config.validated = .ok config) :
    let limit := config.listener.maxConnections.toNat
    ((start? limit).isSome ↔ limit ≤ greatestLimit) ∧
      (∀ server, start? limit = some server →
        0 < limit ∧ (∀ count ≤ limit, (server.run (crowd count)).tasks.length = count) ∧
          ((server.run (crowd limit)).step .acquired).isAccepting = false) ∧
      ∀ count, 0 < count → (config.withSlots count).validated = .ok (config.withSlots count) := by
  intro limit
  refine ⟨?_, ?_, fun count positive => Config.validated_withSlots valid positive⟩
  · simp only [Option.isSome_iff_exists, start?_eq_some_iff, exists_and_left, exists_eq, and_true]
  · intro server started
    have noneBroken := (Config.validated_eq_ok_iff.mp valid).1
    have positive := (Config.violations_eq_nil_iff config).mp noneBroken .maxConnections
    refine ⟨UInt64.lt_iff_toNat_lt.mp positive, ?_, ?_⟩
    · intro count fits
      exact (run_crowd_of_start? started fits).1
    · rcases run_crowd_of_start? started (Nat.le_refl limit) with ⟨-, free, isIdle⟩
      rw [step, acquire_of_none isIdle (free.trans (Nat.sub_self limit))]
      exact isIdle

/-- The last count that starts, and the next one. -/
theorem start?_iff_of_valid_greatest :
    let config : Config := { Config.default with
      listener := ⟨"::1", 80, 2305843009213693951⟩
      target := ⟨"backend", 80, 1⟩ }
    config.validated = .ok config ∧ (start? 2305843009213693951).isSome ∧
      (∀ server, start? 2305843009213693951 = some server →
        (server.run (crowd 1000)).tasks.length = 1000) ∧
      (config.withSlots 2305843009213693952).validated =
        .ok (config.withSlots 2305843009213693952) := by
  intro config
  have valid : config.validated = .ok config := by
    rw [Config.validated_eq_ok_iff, and_iff_left rfl]
    decide +kernel
  rcases start?_iff_of_valid valid with ⟨starts, serves, others⟩
  refine ⟨valid, starts.mpr (by decide), ?_, others _ (by decide)⟩
  intro server started
  exact (serves server started).2.1 1000 (by decide)

/-- A configuration that is found to be in order, and with which the relay does not start. -/
theorem start?_uncountable :
    let config : Config := { Config.default with
      listener := ⟨"0.0.0.0", 8080, 2305843009213693952⟩
      target := ⟨"backend", 3000, 15000⟩ }
    let text := "[target]\naddress = \"backend\"\nport = 3000\n" ++
      "[proxy]\nmax_connections = 2305843009213693952\n"
    let read : String → Except Fault Bytes := fun _ => .ok (Bytes.ofText text)
    config.validated = .ok config ∧
      Startup.run read ["--check", "relay.toml"] = .done 0 "relay.toml: configuration OK\n" "" ∧
      Startup.run read ["relay.toml"] = .serve config ∧
      start? config.listener.maxConnections.toNat = none := by
  intro config text read
  exact ⟨by decide +kernel, by decide +kernel, by decide +kernel, by decide +kernel⟩

end Server

end HttpRelay
