import HttpRelay.Config.Loading

/-!
# Command line

The program takes the path of a configuration, and an option to check it only. A
configuration that cannot be used is reported, and so is one that was only to be checked;
otherwise the relay is to be run.
-/

namespace HttpRelay

/-- What the arguments ask for. -/
inductive Command where
  | help
  /-- Load the configuration of a path, and run the relay unless it is only to be checked. -/
  | load (path : String) (isCheck : Bool)
  deriving DecidableEq, Repr

/-- What was asked for so far. -/
structure Command.Draft where
  path : Option String
  isCheck : Bool
  deriving DecidableEq, Repr

namespace Command

/-- Takes an argument as the path. There is one path, and it is not empty. -/
def Draft.addPath (draft : Draft) (argument : String) : Option Draft :=
  if draft.path.isSome || argument.isEmpty then none
  else some { draft with path := some argument }

/-- What the arguments ask for, from the left. An option may be given once, and `--` ends
the options. A lone dash is a path. -/
def ofArguments (draft : Draft) (hasOptions : Bool) : List String → Option Command
  | [] => draft.path.map (load · draft.isCheck)
  | argument :: rest =>
      if hasOptions && argument == "--" then ofArguments draft false rest
      else if hasOptions && (argument == "--help" || argument.startsWith "-h") then some help
      else if hasOptions && argument == "--check" then
        if draft.isCheck then none else ofArguments { draft with isCheck := true } true rest
      else if hasOptions && argument.startsWith "-" && argument != "-" then none
      else
        match draft.addPath argument with
        | none => none
        | some draft => ofArguments draft hasOptions rest

def of (arguments : List String) : Option Command :=
  ofArguments ⟨none, false⟩ true arguments

def usage : String :=
  "Usage: transparent-proxy [OPTIONS] <CONFIG>\n\n"

def helpText : String :=
  "Transparent HTTP/1.1 reverse proxy for a single target\n\n" ++ usage ++
  "Arguments:\n" ++
  "  <CONFIG>  Path to the TOML configuration file\n\n" ++
  "Options:\n" ++
  "      --check  Validate the configuration and exit\n" ++
  "  -h, --help   Print help\n"

def usageError : String :=
  "error: the arguments do not fit the usage\n\n" ++ usage ++
  "For more information, try '--help'.\n"

end Command

/-- What the program does at its start. -/
inductive Startup where
  /-- It ends with a code, and with these texts for the two outputs. -/
  | done (code : Nat) (output : String) (errors : String)
  | serve (config : Config)
  deriving DecidableEq, Repr

namespace Startup

/-- The start of a program that has loaded, or not loaded, the configuration of a path. -/
def ofLoaded (path : String) (isCheck : Bool) : Except Config.LoadError Config → Startup
  | .error error => .done 2 "" (path ++ ": " ++ error.message ++ "\n")
  | .ok config => if isCheck then .done 0 (path ++ ": configuration OK\n") "" else .serve config

/-- The start of a program with the given arguments, and with files that are read so. -/
def run (read : String → Except Fault Bytes) (arguments : List String) : Startup :=
  match Command.of arguments with
  | none => .done 2 "" Command.usageError
  | some .help => .done 0 Command.helpText ""
  | some (.load path isCheck) => ofLoaded path isCheck (Config.load (read path))

end Startup

end HttpRelay
