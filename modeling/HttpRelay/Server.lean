import HttpRelay.Tracker

/-!
# Accepting connections

The relay accepts a client only when it has a slot for it. A slot is taken before the client
is there, and goes back when the wait for a client ends without one, or when the task of the
client ends, for whatever reason. A task first connects to the target; only then is there a
handler, which the tracker counts.
-/

namespace HttpRelay

/-- How far the task of a client is. -/
inductive Server.Task where
  /-- It connects to the target. -/
  | connecting
  /-- Its handler runs, with an exchange in flight or not. -/
  | serving (isBusy : Bool)
  deriving DecidableEq, Repr

/-- Why a task ends. -/
inductive Server.TaskEnd where
  /-- Shutdown came before the target was connected. -/
  | stopped
  /-- The target could not be connected to, or not in time. -/
  | unreachable
  | returned
  /-- The task took too long to end after shutdown. -/
  | aborted
  deriving DecidableEq, Repr

/-- The slots of a relay and what they are used for. -/
structure Server where
  limit : Nat
  free : Nat
  /-- Whether a slot is taken for the next client. -/
  isAccepting : Bool
  /-- Whether no more clients are accepted. -/
  isStopping : Bool
  /-- The tasks of clients, each with its number. -/
  tasks : List (Nat × Server.Task)
  accepted : Nat
  tracker : Tracker
  /-- How many tasks did not reach the target. -/
  connectFailures : Nat
  deriving DecidableEq, Repr

/-- What happens to a relay. -/
inductive Server.Event where
  | acquired
  | accepted
  /-- The wait for a client is given up, to be begun anew. -/
  | cancelled
  | acceptFailed
  | connected (task : Nat)
  /-- The handler of a task is busy or idle. -/
  | marked (task : Nat) (isBusy : Bool)
  | ended (task : Nat) (reason : Server.TaskEnd)
  | shutdown
  deriving DecidableEq, Repr

namespace Server

/-- The greatest number of slots that can be counted. -/
def greatestLimit : Nat := Nat.pow 2 61 - 1

/-- A relay with the given number of slots, if that many can be counted. -/
def start? (limit : Nat) : Option Server :=
  if limit ≤ greatestLimit then some ⟨limit, limit, false, false, [], 0, .none, 0⟩ else none

/-- Takes a slot for the next client. -/
def acquire (server : Server) : Server :=
  if server.isStopping || server.isAccepting || server.free == 0 then server
  else { server with free := server.free - 1, isAccepting := true }

/-- Gives back the slot that was taken for the next client. -/
def cancel (server : Server) : Server :=
  if server.isAccepting then { server with free := server.free + 1, isAccepting := false }
  else server

/-- Begins the task of a client, which has the slot from now on. -/
def accept (server : Server) : Server :=
  if server.isAccepting then
    { server with
      isAccepting := false
      tasks := server.tasks ++ [(server.accepted, .connecting)]
      accepted := server.accepted + 1 }
  else server

def others (server : Server) (task : Nat) : List (Nat × Task) :=
  server.tasks.filter (·.1 != task)

def advance (server : Server) (task : Nat) (stage : Task) : List (Nat × Task) :=
  server.tasks.map fun entry => if entry.1 == task then (task, stage) else entry

def connect (server : Server) (task : Nat) : Server :=
  match server.tasks.lookup task with
  | some .connecting =>
      { server with
        tasks := server.advance task (.serving false)
        tracker := server.tracker.track }
  | some (.serving _) | none => server

def mark (server : Server) (task : Nat) (isBusy : Bool) : Server :=
  match server.tasks.lookup task with
  | some (.serving wasBusy) =>
      { server with
        tasks := server.advance task (.serving isBusy)
        tracker := server.tracker.mark wasBusy isBusy }
  | some .connecting | none => server

/-- Whether a task can end for a reason in a stage. -/
def canEnd : Task → TaskEnd → Bool
  | .connecting, .stopped | .connecting, .unreachable => true
  | .serving _, .returned => true
  | _, .aborted => true
  | .connecting, .returned | .serving _, .stopped | .serving _, .unreachable => false

/-- The tracker without the handler of a task that was in a stage. -/
def release (server : Server) : Task → Tracker
  | .connecting => server.tracker
  | .serving isBusy => server.tracker.release isBusy

/-- A task ends and gives its slot back. -/
def finish (server : Server) (task : Nat) (reason : TaskEnd) : Server :=
  match server.tasks.lookup task with
  | some stage =>
      if canEnd stage reason then
        { server with
          free := server.free + 1
          tasks := server.others task
          tracker := server.release stage
          connectFailures := server.connectFailures + if reason = .unreachable then 1 else 0 }
      else server
  | none => server

def stop (server : Server) : Server :=
  { server.cancel with isStopping := true }

/-- The relay after an event. An event that cannot happen changes nothing. -/
def step (server : Server) : Event → Server
  | .acquired => server.acquire
  | .accepted => server.accept
  | .cancelled | .acceptFailed => server.cancel
  | .connected task => server.connect task
  | .marked task isBusy => server.mark task isBusy
  | .ended task reason => server.finish task reason
  | .shutdown => server.stop

/-- How many slots are taken, by tasks or for the next client. -/
def taken (server : Server) : Nat :=
  server.tasks.length + if server.isAccepting then 1 else 0

end Server

end HttpRelay
