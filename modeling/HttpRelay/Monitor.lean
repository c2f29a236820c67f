import HttpRelay.Report.Log
import HttpRelay.Shutdown
import HttpRelay.Tracker

/-!
# Monitor

A monitor reports the counts of a tracker at a fixed interval until shutdown. A report that
is due is made when the clock is next looked at. If it is made in time, or hardly late, the
next one is due one interval after it was due; if it is late, one interval after it was
made. The signal of shutdown is looked at before the clock, so one that was triggered before
the start ends a monitor with no report.
-/

namespace HttpRelay

/-- An entry of a monitor, with the counts if it is a report. -/
structure MonitorEntry where
  entry : LogEntry
  /-- The number of handlers and the number of busy ones. -/
  counts : Option (Nat × Nat)
  deriving DecidableEq, Repr

structure Monitor where
  /-- The time between reports in milliseconds. Zero turns reports off. -/
  interval : Nat
  now : Nat
  due : Nat
  /-- Whether anyone is left who could announce shutdown. -/
  isListening : Bool
  isFinished : Bool
  deriving DecidableEq, Repr

namespace Monitor

/-- How late a report may be without delaying those after it, in milliseconds. -/
def tolerance : Nat := 5

def plainEntry (level : Level) (message : String) : MonitorEntry :=
  ⟨⟨level, message⟩, none⟩

def disabled : MonitorEntry :=
  plainEntry .info "Connection handler monitor disabled"

def starting : MonitorEntry :=
  plainEntry .debug "Connection handler monitor starting"

def exiting : MonitorEntry :=
  plainEntry .debug "Connection handler monitor received shutdown signal, exiting loop"

def report (tracker : Tracker) : MonitorEntry :=
  ⟨⟨.info, "Active connection handlers"⟩, some (tracker.active, tracker.busy)⟩

/-- When the report after one that was due at a time is due. -/
def nextDue (interval now due : Nat) : Nat :=
  if now ≤ due + tolerance then due + interval else now + interval

/-- How many reports are made at the given time, and when the next is due. -/
def reportsDue (interval now due : Nat) : Nat × Nat :=
  if due ≤ now ∧ 0 < interval then
    let (count, next) := reportsDue interval now (nextDue interval now due)
    (count + 1, next)
  else (0, due)
termination_by now + 1 - due
decreasing_by
  simp only [nextDue]
  split <;> omega

/-- The clock moves on in one jump. -/
def advance (monitor : Monitor) (milliseconds : Nat) (tracker : Tracker) :
    Monitor × List MonitorEntry :=
  let now := monitor.now + milliseconds
  if monitor.isFinished then ({ monitor with now := now }, [])
  else
    let (count, due) := reportsDue monitor.interval now monitor.due
    ({ monitor with now := now, due := due }, List.replicate count (report tracker))

def stop (monitor : Monitor) : Monitor × List MonitorEntry :=
  if monitor.isFinished || !monitor.isListening then (monitor, [])
  else
    ({ monitor with isFinished := true }, [exiting])

/-- Nobody is left who could announce shutdown. -/
def unlisten (monitor : Monitor) : Monitor :=
  { monitor with isListening := false }

/-- A monitor that is started at time zero with a signal to listen to, and what it says
then. -/
def start (interval : Nat) (signal : Shutdown.Wait := .pending) : Monitor × List MonitorEntry :=
  if interval = 0 then (⟨interval, 0, 0, true, true⟩, [disabled])
  else
    let monitor : Monitor := ⟨interval, 0, interval, signal != .never, false⟩
    match signal with
    | .resolved =>
        let (stopped, entries) := monitor.stop
        (stopped, starting :: entries)
    | .pending | .never => (monitor, [starting])

end Monitor

/-- A monitor together with the handlers that it reports on. -/
structure Watch where
  monitor : Monitor
  roster : Roster
  deriving DecidableEq, Repr

namespace Watch

/-- What can happen under a watch. -/
inductive Event where
  | elapsed (milliseconds : Nat)
  | shutdown
  /-- Everyone who could announce shutdown goes away. -/
  | abandoned
  | guard (name : String) (operation : Roster.Operation)
  deriving DecidableEq, Repr

/-- A watch that begins at time zero, and what the monitor says then. -/
def start (interval : Nat) (signal : Shutdown.Wait := .pending) : Watch × List MonitorEntry :=
  let (monitor, entries) := Monitor.start interval signal
  (⟨monitor, .empty⟩, entries)

/-- The watch after an event, and what the monitor says to it. -/
def step (watch : Watch) : Event → Watch × List MonitorEntry
  | .elapsed milliseconds =>
      let (monitor, entries) := watch.monitor.advance milliseconds watch.roster.tracker
      ({ watch with monitor := monitor }, entries)
  | .shutdown =>
      let (monitor, entries) := watch.monitor.stop
      ({ watch with monitor := monitor }, entries)
  | .abandoned => ({ watch with monitor := watch.monitor.unlisten }, [])
  | .guard name operation => ({ watch with roster := watch.roster.apply name operation }, [])

end Watch

end HttpRelay
