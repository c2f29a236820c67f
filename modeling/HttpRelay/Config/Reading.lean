import HttpRelay.Config.Basic
import HttpRelay.Config.Tree

/-!
# Reading a configuration

From a tree to a configuration. A section gives its fields by name or, as an array, by
position. What it does not give has its default, names that mean nothing are passed over,
and a value of the wrong type or range spoils the whole.
-/

namespace HttpRelay.Config

namespace Tree

/-- The named values of a section whose fields have the given order. An array gives the
first ones, and may not give more than there are. A date sets no field. -/
def fields? (names : List String) : Tree → Option (List (String × Tree))
  | table entries => some entries
  | array items => if items.length ≤ names.length then some (names.zip items) else none
  | moment => some []
  | null | boolean _ | integer _ | fraction | text _ => none

def text? : Tree → Option String
  | text value => some value
  | _ => none

def flag? : Tree → Option Bool
  | boolean value => some value
  | _ => none

/-- An integer that a port number can be. -/
def port? : Tree → Option UInt16
  | integer value => if 0 ≤ value ∧ value < 65536 then some value.toNat.toUInt16 else none
  | _ => none

/-- An integer of 64 bits without sign. -/
def count? : Tree → Option UInt64
  | integer value =>
      if 0 ≤ value ∧ value < 18446744073709551616 then some value.toNat.toUInt64 else none
  | _ => none

end Tree

/-- What named values say about a field. -/
def field {Value : Type} (entries : List (String × Tree)) (name : String)
    (read : Tree → Option Value) (default : Value) : Option Value :=
  match entries.lookup name with
  | none => some default
  | some tree => read tree

def Listener.ofTree? (tree : Tree) : Option Listener := do
  let entries ← tree.fields? ["bind_host", "port", "max_connections"]
  return ⟨← field entries "bind_host" Tree.text? default.bindHost,
    ← field entries "port" Tree.port? default.port,
    ← field entries "max_connections" Tree.count? default.maxConnections⟩

def Target.ofTree? (tree : Tree) : Option Target := do
  let entries ← tree.fields? ["address", "port", "connect_timeout_ms"]
  return ⟨← field entries "address" Tree.text? default.address,
    ← field entries "port" Tree.port? default.port,
    ← field entries "connect_timeout_ms" Tree.count? default.connectTimeout⟩

/-- The name of the limit on the start line. -/
def startLineKey : Kind → String
  | .request => "request_line_size_limit"
  | .response => "status_line_size_limit"

def HeaderLimits.ofTree? (kind : Kind) (tree : Tree) : Option HeaderLimits := do
  let entries ← tree.fields?
    ["receive_timeout_ms", startLineKey kind, "fields_limit", "field_size_limit"]
  let default := HeaderLimits.default kind
  return ⟨← field entries "receive_timeout_ms" Tree.count? default.receiveTimeout,
    ← field entries (startLineKey kind) Tree.count? default.startLineSize,
    ← field entries "fields_limit" Tree.count? default.fieldCount,
    ← field entries "field_size_limit" Tree.count? default.fieldSize⟩

def Http.ofTree? (tree : Tree) : Option Http := do
  let entries ← tree.fields? ["request", "response"]
  return ⟨← field entries "request" (HeaderLimits.ofTree? .request) default.request,
    ← field entries "response" (HeaderLimits.ofTree? .response) default.response⟩

def Handlers.ofTree? (tree : Tree) : Option Handlers := do
  let entries ← tree.fields? ["log_interval_ms", "termination_timeout_ms"]
  return ⟨← field entries "log_interval_ms" Tree.count? default.logInterval,
    ← field entries "termination_timeout_ms" Tree.count? default.terminationTimeout⟩

def Observability.ofTree? (tree : Tree) : Option Observability := do
  let entries ← tree.fields? ["log_level", "metrics_enabled", "metrics_address"]
  return ⟨← field entries "log_level" Tree.text? default.logLevel,
    ← field entries "metrics_enabled" Tree.flag? default.metricsEnabled,
    ← field entries "metrics_address" Tree.text? default.metricsAddress⟩

/-- The configuration that a tree describes. -/
def ofTree? (tree : Tree) : Option Config := do
  let entries ← tree.fields?
    ["proxy", "target", "http", "connection_handlers", "observability"]
  return ⟨← field entries "proxy" Listener.ofTree? default.listener,
    ← field entries "target" Target.ofTree? default.target,
    ← field entries "http" Http.ofTree? default.http,
    ← field entries "connection_handlers" Handlers.ofTree? default.handlers,
    ← field entries "observability" Observability.ofTree? default.observability⟩

end HttpRelay.Config
