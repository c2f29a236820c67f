import HttpRelay.Address
import HttpRelay.Config.Basic
import HttpRelay.Text.Blank

/-!
# Rules for configurations

What a configuration has to satisfy beyond its form. Every rule is checked, in a fixed
order, and each that is broken is reported once.
-/

namespace HttpRelay.Config

inductive Property where
  | listenerPort
  | bindHost
  | maxConnections
  | targetAddress
  | targetPort
  | connectTimeout
  | receiveTimeout (kind : Kind)
  | startLineSize (kind : Kind)
  | fieldCount (kind : Kind)
  | fieldSize (kind : Kind)
  | terminationTimeout
  | metricsAddress
  deriving DecidableEq, Repr

/-- The place of a property in a configuration text. -/
def Property.path : Property → String
  | listenerPort => "proxy.port"
  | bindHost => "proxy.bind_host"
  | maxConnections => "proxy.max_connections"
  | targetAddress => "target.address"
  | targetPort => "target.port"
  | connectTimeout => "target.connect_timeout_ms"
  | receiveTimeout kind => "http." ++ kind.text ++ ".receive_timeout_ms"
  | startLineSize .request => "http.request.request_line_size_limit"
  | startLineSize .response => "http.response.status_line_size_limit"
  | fieldCount kind => "http." ++ kind.text ++ ".fields_limit"
  | fieldSize kind => "http." ++ kind.text ++ ".field_size_limit"
  | terminationTimeout => "connection_handlers.termination_timeout_ms"
  | metricsAddress => "observability.metrics_address"

/-- A rule that is broken. -/
inductive Violation where
  | missing (property : Property)
  | invalid (property : Property) (value : String)
  | zero (property : Property)
  | tooSmall (property : Property) (least : Nat) (value : Nat)
  deriving DecidableEq, Repr

namespace Violation

def property : Violation → Property
  | missing property | invalid property _ | zero property | tooSmall property _ _ => property

def message : Violation → String
  | missing property => s!"property {property.path} is missing"
  | invalid property value => s!"property {property.path} is not valid: {value}"
  | zero property => s!"property {property.path} must be greater than zero"
  | tooSmall property least value => s!"property {property.path} must be at least {least}: {value}"

end Violation

/-- The least limit on the size of a line in bytes. -/
def leastSize : Nat := 255

/-- A port has to be given. -/
def checkPort (property : Property) (port : UInt16) : Option Violation :=
  if port = 0 then some (.missing property) else none

def checkNonzero (property : Property) (value : UInt64) : Option Violation :=
  if value = 0 then some (.zero property) else none

def checkLeast (property : Property) (least : Nat) (value : UInt64) : Option Violation :=
  if value.toNat < least then some (.tooSmall property least value.toNat) else none

def checkBindHost (host : String) : Option Violation :=
  if (Host.ofText? host.toList).isSome then none else some (.invalid .bindHost host)

/-- A target may have any name without blanks. -/
def checkTarget (address : String) : Option Violation :=
  if address.toList.all Text.isBlank then some (.missing .targetAddress)
  else if address.toList.any Text.isBlank then some (.invalid .targetAddress address)
  else none

/-- The address of the metrics matters only if there are any. -/
def checkMetrics (observability : Observability) : Option Violation :=
  if observability.metricsEnabled && (Endpoint.ofText? observability.metricsAddress.toList).isNone
  then some (.invalid .metricsAddress observability.metricsAddress)
  else none

/-- The checks of the limits of one direction. -/
def limitChecks (kind : Kind) (limits : HeaderLimits) : List (Option Violation) :=
  [checkNonzero (.receiveTimeout kind) limits.receiveTimeout,
    checkLeast (.startLineSize kind) leastSize limits.startLineSize,
    checkLeast (.fieldCount kind) 1 limits.fieldCount,
    checkLeast (.fieldSize kind) leastSize limits.fieldSize]

def checks (config : Config) : List (Option Violation) :=
  [checkPort .listenerPort config.listener.port, checkBindHost config.listener.bindHost,
    checkNonzero .maxConnections config.listener.maxConnections,
    checkTarget config.target.address, checkPort .targetPort config.target.port,
    checkNonzero .connectTimeout config.target.connectTimeout] ++
  limitChecks .request config.http.request ++ limitChecks .response config.http.response ++
  [checkNonzero .terminationTimeout config.handlers.terminationTimeout,
    checkMetrics config.observability]

/-- Every rule that a configuration breaks, in the order of the rules. -/
def violations (config : Config) : List Violation :=
  config.checks.filterMap id

end HttpRelay.Config
