import HttpRelay.Proofs.Tracker
import HttpRelay.Server

/-!
# Slots

Every slot of a relay is free, or a task has it, or it is kept for the next client, and at every
moment each slot is exactly one of these (`Server.IsBalanced`). One event moves at most one slot
from one place to another, so this holds after any events in any order, and whatever ends a task
gives its slot back at once (`Server.slots_conserved`). What counts as a task here is what was
accepted and has not ended; only some of these have a handler that the tracker counts.
-/

namespace HttpRelay

namespace Server

def Task.isServing : Task → Bool
  | .connecting => false
  | .serving _ => true

/-- How many tasks have a handler. -/
def handlers (tasks : List (Nat × Task)) : Nat :=
  tasks.countP fun entry => entry.2.isServing

def run (server : Server) (events : List Event) : Server :=
  events.foldl step server

/-- Where the slots are, and which tasks have them. -/
structure IsBalanced (limit : Nat) (server : Server) : Prop where
  slots : server.free + server.taken = limit
  distinct : (server.tasks.map Prod.fst).Nodup
  /-- No task has the number of the next one. -/
  numbered : ∀ task ∈ server.tasks.map Prod.fst, task < server.accepted
  active : server.tracker.active = handlers server.tasks

/-- A task is gone, its slot is free, and nothing else has moved. -/
structure GivesBack (before : Server) (task : Nat) (after : Server) : Prop where
  free : after.free = before.free + 1
  tasks : after.tasks = before.tasks.filter (·.1 != task)
  fewer : after.tasks.length + 1 = before.tasks.length
  isAccepting : after.isAccepting = before.isAccepting
  isStopping : after.isStopping = before.isStopping

variable {limit : Nat} {server : Server} {task : Nat} {stage : Task}

theorem active_release (server : Server) (stage : Task) :
    (server.release stage).active = server.tracker.active - if stage.isServing then 1 else 0 := by
  cases stage with
  | connecting => rfl
  | serving isBusy => exact Tracker.active_release server.tracker isBusy

theorem finish_eq {reason : TaskEnd} (found : server.tasks.lookup task = some stage)
    (ends : canEnd stage reason = true) :
    server.finish task reason =
      { server with
        free := server.free + 1
        tasks := server.others task
        tracker := server.release stage
        connectFailures := server.connectFailures + if reason = .unreachable then 1 else 0 } := by
  simp only [finish, found, ends, if_true]

theorem canEnd_aborted (stage : Task) : canEnd stage .aborted = true := by
  cases stage <;> rfl

/-- A relay that has a free slot and goes on waits for the next client. -/
theorem isAccepting_acquire (isRunning : server.isStopping = false) (isFree : 0 < server.free) :
    server.acquire.isAccepting = true := by
  have notNone : (server.free == 0) = false := beq_false_of_ne (Nat.ne_of_gt isFree)
  cases isAccepting : server.isAccepting <;> simp [acquire, isRunning, isAccepting, notNone]

namespace IsBalanced

theorem tasks_perm (balanced : server.IsBalanced limit)
    (found : server.tasks.lookup task = some stage) :
    server.tasks.Perm ((task, stage) :: server.others task) :=
  Entries.perm_cons_filter balanced.distinct found

theorem length_others (balanced : server.IsBalanced limit)
    (found : server.tasks.lookup task = some stage) :
    (server.others task).length + 1 = server.tasks.length :=
  (balanced.tasks_perm found).length_eq.symm

/-- The handler of a task is counted apart from all others. -/
theorem active_eq (balanced : server.IsBalanced limit)
    (found : server.tasks.lookup task = some stage) :
    server.tracker.active =
      handlers (server.others task) + if stage.isServing then 1 else 0 := by
  rw [balanced.active, handlers, (balanced.tasks_perm found).countP_eq, List.countP_cons, handlers]

theorem handlers_advance (balanced : server.IsBalanced limit)
    (found : server.tasks.lookup task = some stage) (next : Task) :
    handlers (server.advance task next) =
      handlers (server.others task) + if next.isServing then 1 else 0 := by
  have advanced := Entries.perm_replace balanced.distinct found next
  rw [handlers, advance, advanced.countP_eq, List.countP_cons, handlers, others]

/-- A task goes on to another stage, and the tracker is told. -/
theorem advance (balanced : server.IsBalanced limit) {next : Task} {tracker : Tracker}
    (active : tracker.active = handlers (server.advance task next)) :
    IsBalanced limit { server with tasks := server.advance task next, tracker := tracker } := by
  have same : (server.advance task next).map Prod.fst = server.tasks.map Prod.fst :=
    Entries.map_fst_replace _ _ _
  have asMany : (server.advance task next).length = server.tasks.length := List.length_map _
  refine ⟨?_, ?_, ?_, active⟩
  · simp only [taken, asMany]
    exact balanced.slots
  · simp only [same]
    exact balanced.distinct
  · simp only [same]
    exact balanced.numbered

theorem acquire (balanced : server.IsBalanced limit) : server.acquire.IsBalanced limit := by
  simp only [Server.acquire]
  split
  · exact balanced
  · rename_i canAcquire
    simp only [Bool.or_eq_true, beq_iff_eq, not_or, Bool.not_eq_true] at canAcquire
    refine ⟨?_, balanced.distinct, balanced.numbered, balanced.active⟩
    have slots := balanced.slots
    simp only [taken, canAcquire, Bool.false_eq_true, if_false, if_true] at slots ⊢
    omega

theorem cancel (balanced : server.IsBalanced limit) : server.cancel.IsBalanced limit := by
  simp only [Server.cancel]
  split
  · rename_i isAccepting
    refine ⟨?_, balanced.distinct, balanced.numbered, balanced.active⟩
    have slots := balanced.slots
    simp only [taken, isAccepting, Bool.false_eq_true, if_false, if_true] at slots ⊢
    omega
  · exact balanced

theorem accept (balanced : server.IsBalanced limit) : server.accept.IsBalanced limit := by
  simp only [Server.accept]
  split
  · rename_i isAccepting
    refine ⟨?_, ?_, ?_, ?_⟩
    · have slots := balanced.slots
      simp only [taken, isAccepting, Bool.false_eq_true, if_false, if_true, List.length_append,
        List.length_singleton] at slots ⊢
      omega
    · rw [List.map_append, List.map_singleton, ← List.concat_eq_append]
      apply balanced.distinct.concat
      intro isIn
      exact Nat.lt_irrefl _ (balanced.numbered _ isIn)
    · intro task isIn
      simp only [List.map_append, List.map_singleton, List.mem_append, List.mem_singleton] at isIn
      rcases isIn with isOld | rfl
      · exact Nat.lt_succ_of_lt (balanced.numbered task isOld)
      · exact Nat.lt_succ_self _
    · rw [handlers, List.countP_append]
      exact balanced.active
  · exact balanced

theorem connect (balanced : server.IsBalanced limit) (task : Nat) :
    (server.connect task).IsBalanced limit := by
  simp only [Server.connect]
  split
  · rename_i found
    apply balanced.advance
    rw [balanced.handlers_advance found]
    exact congrArg Nat.succ (balanced.active_eq found)
  · exact balanced
  · exact balanced

theorem mark (balanced : server.IsBalanced limit) (task : Nat) (isBusy : Bool) :
    (server.mark task isBusy).IsBalanced limit := by
  simp only [Server.mark]
  split
  · rename_i wasBusy found
    apply balanced.advance
    rw [Tracker.active_mark, balanced.handlers_advance found, balanced.active_eq found]
    rfl
  · exact balanced
  · exact balanced

theorem finish (balanced : server.IsBalanced limit) (task : Nat) (reason : TaskEnd) :
    (server.finish task reason).IsBalanced limit := by
  simp only [Server.finish]
  split
  · rename_i stage found
    split
    · refine ⟨?_, Entries.nodup_filter balanced.distinct task, ?_, ?_⟩
      · have slots := balanced.slots
        have fewer := balanced.length_others found
        simp only [taken] at slots ⊢
        omega
      · intro other isIn
        apply balanced.numbered other
        exact (List.filter_sublist.map Prod.fst).subset isIn
      · simp only [active_release]
        have active := balanced.active_eq found
        omega
    · exact balanced
  · exact balanced

theorem step (balanced : server.IsBalanced limit) (event : Event) :
    (server.step event).IsBalanced limit := by
  cases event with
  | acquired => exact balanced.acquire
  | accepted => exact balanced.accept
  | cancelled | acceptFailed => exact balanced.cancel
  | connected task => exact balanced.connect task
  | marked task isBusy => exact balanced.mark task isBusy
  | ended task reason => exact balanced.finish task reason
  | shutdown =>
      have balanced := balanced.cancel
      exact ⟨balanced.slots, balanced.distinct, balanced.numbered, balanced.active⟩

theorem run (balanced : server.IsBalanced limit) (events : List Event) :
    (server.run events).IsBalanced limit := by
  induction events generalizing server with
  | nil => exact balanced
  | cons event events ih => exact ih (balanced.step event)

theorem givesBack (balanced : server.IsBalanced limit) (reason : TaskEnd)
    (found : server.tasks.lookup task = some stage) (ends : canEnd stage reason = true) :
    server.GivesBack task (server.step (.ended task reason)) := by
  simp only [Server.step, finish_eq found ends]
  exact ⟨rfl, rfl, balanced.length_others found, rfl, rfl⟩

theorem active_le (balanced : server.IsBalanced limit) :
    server.tracker.active ≤ server.tasks.length := by
  rw [balanced.active]
  exact List.countP_le_length

end IsBalanced

/-- Every task is aborted, and no client is waited for. -/
def clearing (server : Server) : List Event :=
  server.tasks.map (fun entry => .ended entry.1 .aborted) ++ [.cancelled]

theorem tasks_run_aborted (tasks : List (Nat × Task)) {server : Server}
    (distinct : (tasks.map Prod.fst).Nodup) (all : server.tasks = tasks) :
    (server.run (tasks.map fun entry => .ended entry.1 .aborted)).tasks = [] := by
  induction tasks generalizing server with
  | nil => exact all
  | cons entry tasks ih =>
      rcases entry with ⟨task, stage⟩
      simp only [List.map_cons, List.nodup_cons] at distinct
      have found : server.tasks.lookup task = some stage := by
        simp only [all, Entries.lookup_cons_ite, if_true]
      have rest : server.others task = tasks := by
        simp only [others, all, List.filter_cons, bne_self_eq_false, Bool.false_eq_true, if_false]
        apply List.filter_eq_self.mpr
        intro other isIn
        apply bne_iff_ne.mpr
        rintro rfl
        exact distinct.1 (List.mem_map_of_mem isIn)
      apply ih distinct.2
      simp only [step, finish_eq found (canEnd_aborted stage)]
      exact rest

theorem run_clearing (distinct : (server.tasks.map Prod.fst).Nodup) :
    (server.run server.clearing).tasks = [] ∧
      (server.run server.clearing).isAccepting = false := by
  have cleared := tasks_run_aborted server.tasks distinct rfl
  simp only [run, clearing, List.foldl_append, List.foldl_cons, List.foldl_nil, step] at cleared ⊢
  simp only [cancel]
  split
  · exact ⟨cleared, rfl⟩
  · rename_i notAccepting
    exact ⟨cleared, Bool.not_eq_true _ ▸ notAccepting⟩

theorem IsBalanced.free_eq (balanced : server.IsBalanced limit) (ended : server.tasks = [])
    (notAccepting : server.isAccepting = false) : server.free = limit := by
  have slots := balanced.slots
  simpa only [taken, ended, notAccepting, List.length_nil, Bool.false_eq_true, if_false,
    Nat.add_zero] using slots

theorem isBalanced_start (started : start? limit = some server) : server.IsBalanced limit := by
  simp only [start?, Option.ite_none_right_eq_some, Option.some.injEq] at started
  rcases started with ⟨-, rfl⟩
  refine ⟨rfl, List.nodup_nil, ?_, rfl⟩
  intro task isIn
  exact absurd isIn List.not_mem_nil

/-- Slots are conserved in every order of events. There are never more tasks than slots, whatever
ends a task gives its slot back and leaves the rest alone, a target that cannot be reached does not
keep the relay from accepting the next client, and without tasks all slots are free. -/
theorem slots_conserved (started : start? limit = some server) (events : List Event) :
    let later := server.run events
    later.free + later.tasks.length + (if later.isAccepting then 1 else 0) = limit ∧
      later.tracker.active ≤ later.tasks.length ∧ later.tasks.length ≤ limit ∧
      (∀ task stage reason, later.tasks.lookup task = some stage → canEnd stage reason = true →
        later.GivesBack task (later.step (.ended task reason))) ∧
      (∀ task, later.tasks.lookup task = some .connecting → later.isStopping = false →
        ((later.step (.ended task .unreachable)).step .acquired).isAccepting = true) ∧
      (later.isAccepting = true → ∀ event ∈ [Event.cancelled, .acceptFailed],
        later.step event = { later with free := later.free + 1, isAccepting := false }) ∧
      (later.tasks = [] → later.isAccepting = false → later.free = limit) ∧
      (later.run later.clearing).tasks = [] ∧ (later.run later.clearing).free = limit := by
  intro later
  have balanced : later.IsBalanced limit := (isBalanced_start started).run events
  have slots := balanced.slots
  simp only [taken] at slots
  refine ⟨by omega, balanced.active_le, by omega, ?_, ?_, ?_, balanced.free_eq, ?_⟩
  · intro task stage reason found ends
    exact balanced.givesBack reason found ends
  · intro task found isRunning
    have givesBack := balanced.givesBack .unreachable found rfl
    apply isAccepting_acquire
    · exact givesBack.isStopping.trans isRunning
    · rw [givesBack.free]
      exact Nat.succ_pos _
  · intro isAccepting event isOne
    simp only [List.mem_cons, List.not_mem_nil, or_false] at isOne
    rcases isOne with rfl | rfl <;> simp only [step, cancel, isAccepting, if_true]
  · rcases run_clearing balanced.distinct with ⟨cleared, notAccepting⟩
    exact ⟨cleared, (balanced.run later.clearing).free_eq cleared notAccepting⟩

/-- Two clients take both slots, so that there is none for a third. -/
def crowding : List Event :=
  [.acquired, .accepted, .connected 0, .marked 0 true, .acquired, .accepted, .acquired]

theorem slots_conserved_crowding :
    start? 2 = some ⟨2, 2, false, false, [], 0, .none, 0⟩ ∧
      let crowded := run ⟨2, 2, false, false, [], 0, .none, 0⟩ crowding
      crowded.free = 0 ∧ crowded.tasks = [(0, .serving true), (1, .connecting)] ∧
      crowded.tracker.active ≤ crowded.tasks.length ∧
      crowded.GivesBack 1 (crowded.step (.ended 1 .unreachable)) ∧
      ((crowded.step (.ended 1 .unreachable)).step .acquired).isAccepting = true ∧
      (crowded.run crowded.clearing).free = 2 := by
  have started : start? 2 = some ⟨2, 2, false, false, [], 0, .none, 0⟩ := by decide +kernel
  rcases slots_conserved started crowding with
    ⟨_, active, _, givesBack, acceptsNext, _, _, _, allFree⟩
  refine ⟨started, by decide +kernel, by decide +kernel, active, ?_, ?_, allFree⟩
  · exact givesBack 1 .connecting .unreachable (by decide +kernel) rfl
  · exact acceptsNext 1 (by decide +kernel) (by decide +kernel)

end Server

end HttpRelay
