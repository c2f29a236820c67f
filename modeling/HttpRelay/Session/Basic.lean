import HttpRelay.Session.Connection
import HttpRelay.Tracker

/-!
# Sessions

Any number of connections under one clock, with one tracker and one shutdown. After every
event each handler does all that it can do, so between events everything is at rest.
-/

namespace HttpRelay

/-- Connections and what they share. -/
structure Session where
  limits : LimitsByKind
  now : Nat
  /-- Whether shutdown was announced. -/
  isStopping : Bool
  /-- Every connection by its name, oldest first. -/
  connections : List (String × Connection)
  roster : Roster
  /-- What was counted, the tracker's part left out. -/
  counted : Metrics
  deriving DecidableEq, Repr

inductive Session.Event where
  /-- A client and its target are connected. -/
  | opened (name : String)
  | sent (name : String) (side : Side) (bytes : Bytes)
  /-- A peer stops sending. It still receives. -/
  | closed (name : String) (side : Side)
  | dropped (name : String) (side : Side)
  | elapsed (milliseconds : Nat)
  | shutdown
  deriving DecidableEq, Repr

/-- A report on a pass that ended a handler. -/
structure Session.Ending where
  entry : LogEntry
  kind : Kind
  failure : Failure
  deriving DecidableEq, Repr

namespace Session

def start (limits : LimitsByKind) : Session :=
  ⟨limits, 0, false, [], .empty, .none⟩

def metrics (session : Session) : Metrics :=
  { session.counted with
    activeHandlers := session.roster.tracker.activeGauge
    busyHandlers := session.roster.tracker.busyGauge }

/-- The report on a failed pass. A normal end of a session is no cause for concern. -/
def Ending.of (kind : Kind) (failure : Failure) : Ending :=
  ⟨if failure.isDisconnect then ⟨.debug, "Session ended"⟩
    else ⟨.warn, "Exchange failed, closing connection"⟩, kind, failure⟩

/-- Takes in what the handler of a connection lets know. -/
def absorb (name : String) (session : Session) : Notice → Session
  | .busy => { session with roster := session.roster.mark name true }
  | .idle => { session with roster := session.roster.mark name false }
  | .exchanged => { session with counted := session.counted.addExchange }
  | .synthesized status kind =>
      { session with counted := session.counted.addStatus status kind }
  | .failed _ _ => session
  | .released => { session with roster := session.roster.drop name }

/-- The reports in what a handler lets know. -/
def endings (notices : List Notice) : List Ending :=
  notices.filterMap fun
    | .failed kind failure => some (.of kind failure)
    | _ => none

/-- Lets the handler of one connection act. -/
def act (session : Session) (name : String) (action : Connection → Connection × List Notice) :
    Session × List Ending :=
  match session.connections.lookup name with
  | none => (session, [])
  | some connection =>
      let (acted, notices) := action connection
      let connections := session.connections.map fun entry =>
        if entry.1 == name then (name, acted) else entry
      (notices.foldl (absorb name) { session with connections := connections }, endings notices)

/-- Lets the handlers of all connections act, one after another. -/
def actAll (session : Session) (action : Connection → Connection × List Notice) :
    Session × List Ending :=
  session.connections.foldl
    (fun (session, reports) (name, _) =>
      let (session, more) := session.act name action
      (session, reports ++ more))
    (session, [])

/-- What a handler does at any moment: under shutdown it gives up, else it does what it
can. -/
def proceed (session : Session) (connection : Connection) : Connection × List Notice :=
  if session.isStopping then connection.interrupt
  else connection.settle session.limits session.now

def react (session : Session) (name : String) (side : Side) (change : Peer → Peer) :
    Session × List Ending :=
  session.act name fun connection => session.proceed (connection.modifyPeer side change)

/-- A new connection, unless its name is taken. -/
def connect (session : Session) (name : String) : Session × List Ending :=
  if (session.connections.lookup name).isSome then (session, [])
  else
    let opened : Session :=
      { session with
        connections := session.connections ++ [(name, .start session.limits session.now)]
        roster := session.roster.track name }
    opened.act name opened.proceed

/-- The session after an event, and the reports on the handlers that ended. -/
def step (session : Session) : Event → Session × List Ending
  | .opened name => session.connect name
  | .sent name side bytes => session.react name side (·.send bytes)
  | .closed name side => session.react name side (·.close)
  | .dropped name side => session.react name side (·.leave)
  | .elapsed milliseconds =>
      let later := { session with now := session.now + milliseconds }
      later.actAll later.proceed
  | .shutdown =>
      let stopping := { session with isStopping := true }
      stopping.actAll stopping.proceed

end Session

end HttpRelay
