import HttpRelay.Config.Reading
import HttpRelay.Config.Rules
import HttpRelay.Fault
import HttpRelay.Text.Utf8
import HttpRelay.Toml.Document

/-!
# Loading a configuration

From the content of a file to a valid configuration.
-/

namespace HttpRelay.Config

/-- Why no configuration was loaded. -/
inductive LoadError where
  | unreadable (fault : Fault)
  /-- The text is not TOML, or its values do not have the form of a configuration. -/
  | malformed
  /-- The configuration breaks rules. -/
  | invalid (violations : List Violation)
  deriving DecidableEq, Repr

/-- Why a configuration is not valid, all in one line. -/
def LoadError.message : LoadError → String
  | unreadable fault => "IO error: " ++ fault.text
  | malformed => "Parse error: the text does not describe a configuration"
  | invalid violations => "Validation failed: " ++ ", ".intercalate (violations.map (·.message))

def validated (config : Config) : Except LoadError Config :=
  if config.violations.isEmpty then .ok config else .error (.invalid config.violations)

/-- The valid configuration that a text describes. -/
def ofText (text : String) : Except LoadError Config :=
  match (Toml.ofText? text).bind ofTree? with
  | none => .error .malformed
  | some config => config.validated

def notText : Fault :=
  ⟨.invalidData, "stream did not contain valid UTF-8"⟩

/-- The valid configuration in a file, given what came of reading it. -/
def load (content : Except Fault Bytes) : Except LoadError Config :=
  match content with
  | .error fault => .error (.unreadable fault)
  | .ok bytes =>
      match Utf8.decode? bytes with
      | none => .error (.unreadable notText)
      | some chars => ofText (String.ofList chars)

end HttpRelay.Config
