import HttpRelay.Address
import HttpRelay.Config.Basic
import HttpRelay.Monitor
import HttpRelay.Report.Page
import HttpRelay.Server
import HttpRelay.Session.View
import Std.Async
import Std.Sync

/-!
# Running the relay

The relay on real sockets. All that is decided is decided elsewhere: by `Connection` for the
two sockets of a client, by `Server` for the slots, and by `Monitor` for its reports. This
module waits for what happens, tells them, and does what they say.
-/

namespace HttpRelay.Service

open Std.Async Std.Net

abbrev Socket := TCP.Socket.Client

/-- What the tasks of a running relay share. -/
structure Shared where
  config : Config
  /-- Cancelled at shutdown. -/
  stop : Std.CancellationToken
  server : IO.Ref HttpRelay.Server
  /-- What was counted, the tracker's part left out. -/
  counted : IO.Ref Metrics
  /-- Notified whenever a task ends. -/
  released : Std.Notify

namespace Shared

/-- Something happens to the slots. -/
def tell (shared : Shared) (event : HttpRelay.Server.Event) : BaseIO Unit :=
  shared.server.modify (·.step event)

/-- Shows a log entry, with what belongs to it. -/
def say (shared : Shared) (entry : LogEntry) (more : String) : IO Unit :=
  if entry.level.isShown shared.config.observability.logLevel then
    IO.println s!"{entry.level.text} {entry.message}{more}"
  else pure ()

/-- All metrics. -/
def metrics (shared : Shared) : BaseIO Metrics := do
  let server ← shared.server.get
  let counted ← shared.counted.get
  return { counted with
    activeHandlers := server.tracker.activeGauge
    busyHandlers := server.tracker.busyGauge
    connectFailures := server.connectFailures }

end Shared

/-- A time to wait that the clock can measure. -/
def patience (milliseconds : Nat) : Std.Time.Millisecond.Offset :=
  .ofNat (min milliseconds 2000000000)

/-- A socket address of an address and a port. -/
def socketAddress (host : Host) (port : UInt16) : SocketAddress :=
  match host with
  | .v4 address =>
      .v4 ⟨.ofParts address.first address.second address.third address.fourth, port⟩
  | .v6 address =>
      let group (index : Nat) : UInt16 := address.groups.getD index 0
      .v6 ⟨.ofParts (group 0) (group 1) (group 2) (group 3) (group 4) (group 5) (group 6)
        (group 7), port⟩

/-- A socket that listens on the endpoint of a text. -/
def listenOn (text : String) : IO TCP.Socket.Server := do
  match Endpoint.ofText? text.toList with
  | none => throw (IO.userError "invalid socket address")
  | some endpoint =>
      let listener ← TCP.Socket.Server.mk
      listener.bind (socketAddress endpoint.host endpoint.port)
      listener.listen 1024
      return listener

/-! ## One client -/

def absorb (shared : Shared) (task : Nat) : Notice → IO Unit
  | .busy => shared.tell (.marked task true)
  | .idle => shared.tell (.marked task false)
  | .exchanged => shared.counted.modify (·.addExchange)
  | .synthesized status kind => shared.counted.modify (·.addStatus status kind)
  | .failed kind failure =>
      shared.say (Session.Ending.of kind failure).entry
        s!" direction={kind.text} error={failure.message}"
  | .released => pure ()

def act (shared : Shared) (task : Nat) (acted : Connection × List Notice) : IO Connection := do
  for notice in acted.2 do
    absorb shared task notice
  return acted.1

/-- Sends to a peer what the relay has for it. A peer that cannot be reached is gone. -/
def sendTo (socket : Socket) (side : Side) (connection : Connection) : Async Connection := do
  let output := connection.output side
  if output.isEmpty then return connection
  else
    let sent := connection.modifyPeer side fun peer => peer.withSink peer.sink.forgetOutput
    try
      socket.send ⟨output.toArray⟩
      return sent
    catch _ => return sent.modifyPeer side Peer.leave

/-- What comes next on a connection, as the change that it makes. -/
def next (shared : Shared) (socket : Socket) (side : Side) (pass : Pass) (deadline now : Nat) :
    Async (Connection → Connection) := do
  let received (bytes : Option ByteArray) : Connection → Connection :=
    (·.modifyPeer side fun peer =>
      match bytes with
      | some bytes => peer.send bytes.data.toList
      | none => peer.close)
  let arrival : Selectable (Connection → Connection) :=
    .case (socket.recvSelector 8192) fun bytes => return received bytes
  let shutdown : Selectable (Connection → Connection) :=
    .case shared.stop.selector fun _ => return id
  try
    match pass with
    | .relaying .. => Selectable.one #[arrival, shutdown]
    | .receiving _ =>
        let timer ← Selector.sleep (patience (deadline - now))
        Selectable.one #[arrival, shutdown, .case timer fun _ => return id]
  catch _ => return received none

/-- Serves a client and its target until the handler returns. -/
partial def relay (shared : Shared) (task : Nat) (sockets : Sides Socket)
    (connection : Connection) : Async Unit := do
  let limits := shared.config.limits
  let sent ← sendTo sockets.target .target (← sendTo sockets.client .client connection)
  match sent.stage with
  | .ended => return
  | .passing kind pass deadline =>
      let side := kind.origin
      let change ← next shared (sockets.get side) side pass deadline (← IO.monoMsNow)
      let now ← IO.monoMsNow
      let isStopping ← shared.stop.isCancelled
      let acted := if isStopping then sent.interrupt else (change sent).settle limits now
      relay shared task sockets (← act shared task acted)

def close (socket : Socket) : Async Unit := do
  try socket.shutdown catch _ => return

/-- How an attempt to reach the target ended. -/
inductive Reached where
  | connected (socket : Socket)
  | unreachable (problem : String)
  | stopped

instance : Inhabited Reached := ⟨.stopped⟩

/-- Tries the addresses of the target one after another. -/
def connectAny (port : UInt16) : List IPAddr → Async Reached
  | [] => return .unreachable "no address"
  | address :: others => do
      let socket ← TCP.Socket.Client.mk
      let endpoint : SocketAddress :=
        match address with
        | .v4 address => .v4 ⟨address, port⟩
        | .v6 address => .v6 ⟨address, port⟩
      let problem ← try
          socket.connect endpoint
          pure none
        catch error => pure (some (toString error))
      match problem, others with
      | none, _ => return .connected socket
      | some problem, [] => return .unreachable problem
      | some _, _ => connectAny port others

/-- Connects to the target, unless that takes too long or shutdown comes first. -/
def reachTarget (shared : Shared) : Async Reached := do
  if ← shared.stop.isCancelled then return .stopped
  else
    let target := shared.config.target
    let connecting : Async Reached := do
      try
        let addresses ← DNS.getAddrInfo target.address ""
        connectAny target.port addresses.toList
      catch error => return .unreachable (toString error)
    let waiting : Async Reached := do
      let timer ← Selector.sleep (patience target.connectTimeout.toNat)
      Selectable.one #[.case timer fun _ => return .unreachable "timed out",
        .case shared.stop.selector fun _ => return .stopped]
    Async.race connecting waiting

def serveClient (shared : Shared) (task : Nat) (client : Socket) : Async Unit := do
  let finish (reason : HttpRelay.Server.TaskEnd) : Async Unit := do
    shared.tell (.ended task reason)
    shared.released.notify
  match ← reachTarget shared with
  | .stopped => finish .stopped
  | .unreachable problem =>
      shared.say ⟨.warn, "Could not connect to target, closing client connection"⟩
        s!" error={problem}"
      close client
      finish .unreachable
  | .connected target =>
      shared.tell (.connected task)
      try
        client.noDelay
        target.noDelay
        relay shared task ⟨client, target⟩
          (.start shared.config.limits (← IO.monoMsNow))
      catch _ => pure ()
      close client
      close target
      finish .returned

/-! ## All clients -/

/-- How long to wait after a client could not be accepted, in milliseconds. -/
def acceptPause : Nat := 50

/-- What the accept loop wakes up for. -/
inductive Wake where
  | client (socket : Socket)
  | failed
  | again

instance : Inhabited Wake := ⟨.again⟩

/-- Waits for the next client, or without a slot for a task to end. -/
def awaitClient (shared : Shared) (listener : TCP.Socket.Server) (hasSlot : Bool) :
    Async Wake := do
  let stopped : Selectable Wake := .case shared.stop.selector fun _ => return .again
  try
    if hasSlot then
      Selectable.one #[stopped, .case listener.acceptSelector fun socket => return .client socket]
    else
      let timer ← Selector.sleep (patience acceptPause)
      Selectable.one #[stopped, .case timer fun _ => return .again,
        .case shared.released.selector fun _ => return .again]
  catch _ => return .failed

/-- Accepts clients until shutdown. -/
partial def acceptClients (shared : Shared) (listener : TCP.Socket.Server) : Async Unit := do
  if ← shared.stop.isCancelled then shared.tell .shutdown
  else
    shared.tell .acquired
    let server ← shared.server.get
    match ← awaitClient shared listener server.isAccepting with
    | .client socket =>
        shared.tell .accepted
        background (serveClient shared server.accepted socket)
    | .failed =>
        shared.tell .acceptFailed
        sleep (patience acceptPause)
    | .again => pure ()
    acceptClients shared listener

/-- Waits for the tasks to end, but not beyond the given time. -/
partial def drain (shared : Shared) (deadline : Nat) : Async Unit := do
  let server ← shared.server.get
  let now ← IO.monoMsNow
  if server.tasks.isEmpty || deadline ≤ now then
    for (task, _) in server.tasks do
      shared.tell (.ended task .aborted)
  else
    let timer ← Selector.sleep (patience (min acceptPause (deadline - now)))
    Selectable.one #[.case timer fun _ => return (),
      .case shared.released.selector fun _ => return ()]
    drain shared deadline

/-! ## Monitor, metrics, and signals -/

def sayAll (shared : Shared) (entries : List MonitorEntry) : IO Unit := do
  for entry in entries do
    let counts := entry.counts.map fun (active, busy) => s!" active={active} busy={busy}"
    shared.say entry.entry (counts.getD "")

/-- Runs a monitor until shutdown. -/
partial def runMonitor (shared : Shared) (begun : Nat) (monitor : Monitor) : Async Unit := do
  if monitor.isFinished then return
  else
    let timer ← Selector.sleep (patience (monitor.due - monitor.now))
    Selectable.one #[.case timer fun _ => return (),
      .case shared.stop.selector fun _ => return ()]
    let elapsed := (← IO.monoMsNow) - begun
    let server ← shared.server.get
    let (after, entries) :=
      if ← shared.stop.isCancelled then monitor.stop
      else monitor.advance (elapsed - monitor.now) server.tracker
    sayAll shared entries
    runMonitor shared begun after

/-- Answers every request for the metrics. -/
partial def serveMetrics (shared : Shared) (listener : TCP.Socket.Server) : Async Unit := do
  let client ← listener.accept
  background (t := AsyncTask) do
    try
      let _ ← client.recv? 8192
      client.send ⟨((← shared.metrics).response).toArray⟩
      client.shutdown
    catch _ => return
  serveMetrics shared listener

/-- Waits for a signal to the process. -/
def awaitOne (signal : Signal) : Async Unit := do
  let waiter ← Signal.Waiter.mk signal false
  let _ ← await (← waiter.wait)

/-- Announces shutdown when the process is told to end. -/
def awaitSignal (shared : Shared) : Async Unit := do
  Async.race (awaitOne .sigint) (awaitOne .sigterm)
  shared.stop.cancel

/-! ## The whole -/

/-- Runs the relay of a configuration until it is told to end and all clients are gone. -/
def run (config : Config) : Async Unit := do
  match HttpRelay.Server.start? config.listener.maxConnections.toNat with
  | none => throw (IO.userError "too many connections to count")
  | some server =>
      let shared : Shared :=
        ⟨config, ← Std.CancellationToken.new, ← IO.mkRef server, ← IO.mkRef .none,
          ← Std.Notify.new⟩
      if config.observability.metricsEnabled then
        background (serveMetrics shared (← listenOn config.observability.metricsAddress))
      let listener ← listenOn config.bindAddress
      background (awaitSignal shared)
      let signal : Shutdown.Wait := if ← shared.stop.isCancelled then .resolved else .pending
      let (monitor, entries) := Monitor.start config.handlers.logInterval.toNat signal
      sayAll shared entries
      background (runMonitor shared (← IO.monoMsNow) monitor)
      acceptClients shared listener
      drain shared ((← IO.monoMsNow) + config.handlers.terminationTimeout.toNat)

end HttpRelay.Service
