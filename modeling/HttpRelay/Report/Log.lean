/-!
# Log entries
-/

namespace HttpRelay

/-- How much an entry matters. -/
inductive Level where
  | debug
  | info
  | warn
  deriving DecidableEq, Repr

def Level.text : Level → String
  | debug => "DEBUG"
  | info => "INFO"
  | warn => "WARN"

/-- How much has to be asked for before entries of a level are shown. -/
def Level.verbosity : Level → Nat
  | warn => 2
  | info => 3
  | debug => 4

/-- How much the name of a level in a configuration asks for. A name that means nothing asks
for what matters. -/
def verbosityOf (name : String) : Nat :=
  match name.toLower with
  | "off" => 0
  | "error" => 1
  | "info" => 3
  | "debug" => 4
  | "trace" => 5
  | _ => 2

/-- Whether entries of a level are shown under the name of a level in a configuration. -/
def Level.isShown (level : Level) (name : String) : Bool :=
  level.verbosity ≤ verbosityOf name

structure LogEntry where
  level : Level
  message : String
  deriving DecidableEq, Repr

end HttpRelay
