import HttpRelay.Message.Limits

/-!
# Configurations

All that can be configured, with the values that hold where a configuration text says
nothing. The target has no useful default, so an untouched configuration is never valid.
-/

namespace HttpRelay

namespace Config

/-- Where clients connect. -/
structure Listener where
  bindHost : String
  port : UInt16
  maxConnections : UInt64
  deriving DecidableEq, Repr

/-- Where requests go. -/
structure Target where
  address : String
  port : UInt16
  /-- How long a connection to the target may take to be made, in milliseconds. -/
  connectTimeout : UInt64
  deriving DecidableEq, Repr

/-- What a header of one direction may cost. -/
structure HeaderLimits where
  /-- In milliseconds. -/
  receiveTimeout : UInt64
  startLineSize : UInt64
  fieldCount : UInt64
  fieldSize : UInt64
  deriving DecidableEq, Repr

structure Http where
  request : HeaderLimits
  response : HeaderLimits
  deriving DecidableEq, Repr

/-- The supervision of connection handlers. -/
structure Handlers where
  /-- The time between reports in milliseconds. Zero turns them off. -/
  logInterval : UInt64
  /-- How long handlers may take to end after shutdown, in milliseconds. -/
  terminationTimeout : UInt64
  deriving DecidableEq, Repr

/-- What is reported, and where. -/
structure Observability where
  logLevel : String
  metricsEnabled : Bool
  metricsAddress : String
  deriving DecidableEq, Repr

end Config

structure Config where
  listener : Config.Listener
  target : Config.Target
  http : Config.Http
  handlers : Config.Handlers
  observability : Config.Observability
  deriving DecidableEq, Repr

namespace Config

def Listener.default : Listener :=
  ⟨"0.0.0.0", 8080, 10000⟩

def Target.default : Target :=
  ⟨"", 0, 15000⟩

/-- A target may take longer to respond than a client to send. -/
def HeaderLimits.default : Kind → HeaderLimits
  | .request => ⟨60000, 8192, 100, 8192⟩
  | .response => ⟨90000, 8192, 100, 8192⟩

def Http.default : Http :=
  ⟨.default .request, .default .response⟩

def Handlers.default : Handlers :=
  ⟨60000, 30000⟩

def Observability.default : Observability :=
  ⟨"info", false, "127.0.0.1:9090"⟩

def default : Config :=
  ⟨.default, .default, .default, .default, .default⟩

def Http.of (http : Http) : Kind → HeaderLimits
  | .request => http.request
  | .response => http.response

/-- The limits in the form in which the relay takes them. -/
def HeaderLimits.limits (limits : HeaderLimits) : Limits :=
  ⟨limits.startLineSize.toNat, limits.fieldCount.toNat, limits.fieldSize.toNat,
    limits.receiveTimeout.toNat⟩

def limits (config : Config) : LimitsByKind :=
  ⟨config.http.request.limits, config.http.response.limits⟩

/-- A host with a port. A host with colons goes into brackets, so that the port can be told
from it. -/
def withPort (host : String) (port : UInt16) : String :=
  if host.toList.contains ':' then "[" ++ host ++ "]:" ++ toString port.toNat
  else host ++ ":" ++ toString port.toNat

def bindAddress (config : Config) : String :=
  withPort config.listener.bindHost config.listener.port

def targetAddress (config : Config) : String :=
  withPort config.target.address config.target.port

end Config

end HttpRelay
