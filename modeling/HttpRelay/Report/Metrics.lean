import HttpRelay.Message.Kind
import HttpRelay.Status

/-!
# Metrics

What is counted for an observer: the handlers that are there and those with an exchange in
flight, the responses that the relay made up itself, connections that could not be made, and
completed exchanges. A metric is shown once it was touched.
-/

namespace HttpRelay

structure Metrics where
  /-- The last published number of handlers. -/
  activeHandlers : Option Nat
  /-- The last published number of handlers with an exchange in flight. -/
  busyHandlers : Option Nat
  /-- The status responses that were made up, in order. -/
  synthesized : List (Status × Kind)
  connectFailures : Nat
  exchanges : Nat
  deriving DecidableEq, Repr

namespace Metrics

def none : Metrics :=
  ⟨.none, .none, [], 0, 0⟩

def addStatus (metrics : Metrics) (status : Status) (kind : Kind) : Metrics :=
  { metrics with synthesized := metrics.synthesized ++ [(status, kind)] }

def addExchange (metrics : Metrics) : Metrics :=
  { metrics with exchanges := metrics.exchanges + 1 }

/-- How many responses were made up with a status in a direction. -/
def statusCount (metrics : Metrics) (status : Status) (kind : Kind) : Nat :=
  metrics.synthesized.count (status, kind)

/-- The name of the counter for a status and a direction. -/
def statusName (status : Status) (kind : Kind) : String :=
  "proxy_synthesized_responses_total\x7bstatus=" ++ toString status.code ++ ",direction=" ++
    kind.text ++ "\x7d"

/-- A counter is shown when it is not zero. -/
def shownCount (name : String) (count : Nat) : List (String × Nat) :=
  if count = 0 then [] else [(name, count)]

/-- A gauge is shown when it was set. -/
def shownGauge (name : String) (value : Option Nat) : List (String × Nat) :=
  value.toList.map (name, ·)

/-- Everything that is shown, by name. -/
def shown (metrics : Metrics) : List (String × Nat) :=
  shownGauge "proxy_connection_handlers_active" metrics.activeHandlers ++
    shownGauge "proxy_connection_handlers_busy" metrics.busyHandlers ++
    metrics.synthesized.eraseDups.map (fun (status, kind) =>
      (statusName status kind, metrics.statusCount status kind)) ++
    shownCount "proxy_target_connect_failures_total" metrics.connectFailures ++
    shownCount "proxy_exchange_duration_seconds" metrics.exchanges

end Metrics

end HttpRelay
