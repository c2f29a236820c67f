import HttpRelay.Report.Metrics

/-!
# Tracking handlers

A tracker counts the connection handlers that are there and those that have an exchange in
flight. Every handler holds a guard, which remembers whether the handler is busy; marks are
idempotent, and a guard that goes away takes its share of both counts with it. Both counts
are published whenever they change.
-/

namespace HttpRelay

/-- Counts of handlers. -/
structure Tracker where
  active : Nat
  busy : Nat
  /-- The number of handlers that was published last. -/
  activeGauge : Option Nat
  /-- The number of busy handlers that was published last. -/
  busyGauge : Option Nat
  deriving DecidableEq, Repr

namespace Tracker

def none : Tracker :=
  ⟨0, 0, .none, .none⟩

def setActive (tracker : Tracker) (count : Nat) : Tracker :=
  { tracker with active := count, activeGauge := some count }

def setBusy (tracker : Tracker) (count : Nat) : Tracker :=
  { tracker with busy := count, busyGauge := some count }

def track (tracker : Tracker) : Tracker :=
  tracker.setActive (tracker.active + 1)

/-- A handler that was busy or not is so now or not. -/
def mark (tracker : Tracker) (wasBusy isBusy : Bool) : Tracker :=
  match wasBusy, isBusy with
  | false, true => tracker.setBusy (tracker.busy + 1)
  | true, false => tracker.setBusy (tracker.busy - 1)
  | false, false | true, true => tracker

def release (tracker : Tracker) (wasBusy : Bool) : Tracker :=
  let idle := tracker.mark wasBusy false
  idle.setActive (idle.active - 1)

/-- The part of the metrics that a tracker publishes. -/
def metrics (tracker : Tracker) : Metrics :=
  { Metrics.none with activeHandlers := tracker.activeGauge, busyHandlers := tracker.busyGauge }

end Tracker

/-- A tracker with the guards that are held, by name. -/
structure Roster where
  tracker : Tracker
  /-- Every guard with whether it is busy. -/
  guards : List (String × Bool)
  deriving DecidableEq, Repr

namespace Roster

def empty : Roster :=
  ⟨.none, []⟩

/-- Whether the guard of a name is busy, if there is one. -/
def isBusy? (roster : Roster) (name : String) : Option Bool :=
  roster.guards.lookup name

/-- The guards of all other names. -/
def others (roster : Roster) (name : String) : List (String × Bool) :=
  roster.guards.filter (·.1 != name)

def drop (roster : Roster) (name : String) : Roster :=
  match roster.isBusy? name with
  | none => roster
  | some wasBusy => ⟨roster.tracker.release wasBusy, roster.others name⟩

/-- A new guard. If the name has one already, the new one is counted before the old one
goes away. -/
def track (roster : Roster) (name : String) : Roster :=
  let tracker := roster.tracker.track
  match roster.isBusy? name with
  | none => ⟨tracker, roster.guards ++ [(name, false)]⟩
  | some wasBusy => ⟨tracker.release wasBusy, roster.others name ++ [(name, false)]⟩

/-- A guard is marked busy or idle. -/
def mark (roster : Roster) (name : String) (isBusy : Bool) : Roster :=
  match roster.isBusy? name with
  | none => roster
  | some wasBusy =>
      ⟨roster.tracker.mark wasBusy isBusy,
        roster.guards.map fun guard => if guard.1 == name then (name, isBusy) else guard⟩

/-- What can be done with a guard. -/
inductive Operation where
  | track
  | mark (isBusy : Bool)
  | drop
  deriving DecidableEq, Repr

def apply (roster : Roster) (name : String) : Operation → Roster
  | .track => roster.track name
  | .mark isBusy => roster.mark name isBusy
  | .drop => roster.drop name

end Roster

end HttpRelay
