/-!
# Shutdown

Shutdown is announced over channels. Coordinators send on a channel and signals listen on
it; clones of either share the channel of the one they were made from. A channel that was
triggered stays so, whether or not anyone is left to send on it, and one that was not
triggered never fires because its senders went away.

Coordinators and signals are known by name here, and a name can be used again.
-/

namespace HttpRelay

/-- Coordinators and signals, each with the number of its channel. -/
structure Shutdown where
  /-- Whether each channel was triggered. A new channel gets the next number. -/
  channels : List Bool
  coordinators : List (String × Nat)
  signals : List (String × Nat)
  deriving DecidableEq, Repr

namespace Shutdown

def empty : Shutdown :=
  ⟨[], [], []⟩

/-- What can be done with coordinators and signals. -/
inductive Operation where
  /-- A coordinator with a channel of its own. -/
  | create (name : String)
  /-- A coordinator for the channel of another. -/
  | clone (name : String) (source : String)
  /-- A signal for the channel of a coordinator. -/
  | subscribe (name : String) (source : String)
  /-- A signal for the channel of another. -/
  | cloneSignal (name : String) (source : String)
  | trigger (name : String)
  /-- A coordinator goes away. -/
  | drop (name : String)
  /-- A signal goes away. -/
  | dropSignal (name : String)
  deriving DecidableEq, Repr

def bind (name : String) (channel : Nat) (bound : List (String × Nat)) : List (String × Nat) :=
  bound.filter (·.1 != name) ++ [(name, channel)]

/-- Binds a name to the channel of another name, if that has one. -/
def bindLike (name source : String) (channels bound : List (String × Nat)) :
    List (String × Nat) :=
  match channels.lookup source with
  | none => bound
  | some channel => bind name channel bound

/-- The state after an operation. One that refers to a name without a channel does
nothing. -/
def apply (shutdown : Shutdown) : Operation → Shutdown
  | .create name =>
      { shutdown with
        channels := shutdown.channels ++ [false]
        coordinators := bind name shutdown.channels.length shutdown.coordinators }
  | .clone name source =>
      { shutdown with
        coordinators := bindLike name source shutdown.coordinators shutdown.coordinators }
  | .subscribe name source =>
      { shutdown with
        signals := bindLike name source shutdown.coordinators shutdown.signals }
  | .cloneSignal name source =>
      { shutdown with signals := bindLike name source shutdown.signals shutdown.signals }
  | .trigger name =>
      match shutdown.coordinators.lookup name with
      | none => shutdown
      | some channel => { shutdown with channels := shutdown.channels.set channel true }
  | .drop name =>
      { shutdown with coordinators := shutdown.coordinators.filter (·.1 != name) }
  | .dropSignal name => { shutdown with signals := shutdown.signals.filter (·.1 != name) }

def wasTriggered (shutdown : Shutdown) (channel : Nat) : Bool :=
  shutdown.channels.getD channel false

/-- Whether no coordinator of a channel is left. -/
def isClosed (shutdown : Shutdown) (channel : Nat) : Bool :=
  !shutdown.coordinators.any (·.2 == channel)

/-- What comes of waiting for a channel. -/
inductive Wait where
  | resolved
  /-- Not triggered, but it may be yet. -/
  | pending
  /-- Not triggered, and nobody is left to do it. -/
  | never
  deriving DecidableEq, Repr

/-- Waits for a channel. What it holds counts before whether anyone can still send. -/
def wait (shutdown : Shutdown) (channel : Nat) : Wait :=
  if shutdown.wasTriggered channel then .resolved
  else if shutdown.isClosed channel then .never
  else .pending

end Shutdown

end HttpRelay
