import HttpRelay.CommandLine
import HttpRelay.Directory
import HttpRelay.Service

/-!
# The program

What the command line asks for, done: a configuration is read from its file and judged, and
the relay runs until it is told to end.
-/

namespace HttpRelay.Program

/-- The fault of a file that cannot be read. -/
def faultOfFile : IO.Error → Fault
  | .noFileOrDirectory .. => Directory.noSuchFile
  | .permissionDenied .. => ⟨.permissionDenied, "Permission denied (os error 13)"⟩
  | .inappropriateType _ code _ =>
      if code = 21 then Directory.isDirectory else Directory.notDirectory
  | error => ⟨.other, toString error⟩

/-- What comes of reading a file. -/
def readFile (path : String) : IO (Except Fault Bytes) := do
  try
    let content ← IO.FS.readBinFile path
    return .ok content.data.toList
  catch error => return .error (faultOfFile error)

/-- Starts the program as the arguments ask. -/
def start (arguments : List String) : IO Startup := do
  match Command.of arguments with
  | some (.load path isCheck) =>
      return Startup.ofLoaded path isCheck (Config.load (← readFile path))
  | _ => return Startup.run (fun _ => .error (.ofKind .notFound)) arguments

/-- Runs the relay: the exit code. -/
def serve (config : Config) : IO UInt32 := do
  try
    (Service.run config).block
    return 0
  catch error =>
    IO.eprintln s!"transparent-proxy: {error}"
    return 1

end HttpRelay.Program

def main (arguments : List String) : IO UInt32 := do
  match ← HttpRelay.Program.start arguments with
  | .done code output errors =>
      IO.print output
      IO.eprint errors
      return code.toUInt32
  | .serve config => HttpRelay.Program.serve config
