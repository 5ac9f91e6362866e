import FieldFilter.CommandLine.Program
import Std.Time.DateTime.Timestamp

/-! The command line program. It gives the program its files, its environment, the zones that are
carried here and the time, and prints what the program answers. No database server is in reach of
it.
-/

namespace FieldFilter.Main

def fileError : IO.Error → FileError
  | .noFileOrDirectory _ _ _ => .notFound
  | .inappropriateType _ code details =>
    if code = 20 then .notADirectory
    else if code = 21 then .isADirectory
    else .other details
  | .invalidArgument _ code details | .resourceExhausted _ code details =>
    if code = 36 then .nameTooLong else .other details
  | e => .other (toString e)

def read (path : String) : IO (Except FileError String) := do
  if path.contains '\x00' then return .error .nulInPath
  try return .ok (← IO.FS.readFile path)
  catch e => return .error (fileError e)

def variableOf (entry : String) : String × String :=
  let (name, value) := entry.toList.span (· ≠ '=')
  (String.ofList name, String.ofList (value.drop 1))

/-- The variables of the process, which the system keeps in a file. -/
def environment : IO (List (String × String)) := do
  match ← read "/proc/self/environ" with
  | .error _ => return []
  | .ok text => return (text.splitOn "\x00").map variableOf

def host : IO (Host IO) := do
  let environment ← environment
  return {
    home := (environment.lookup "HOME").filter (· ≠ "")
    lookupVariable := fun name => environment.lookup name
    zones := .carried
    read
    now := do return (← Std.Time.Timestamp.now).toSecondsSinceUnixEpoch.val
    connect := fun _ _ => return .error "no server is in reach" }

def usageText : String :=
  "Usage: filterc [OPTIONS] <compile|count|ids> --filter <FILTER> [OPTIONS]"

def warningText (w : Warning) : String :=
  let details := w.details.map fun (name, value) => " " ++ name ++ "=" ++ value
  "WARN " ++ w.message ++ String.join details

def print : CommandLine.Outcome → IO Unit
  | .printed result => IO.println result.pretty
  | .failed failure => IO.eprintln ("\n" ++ failure.message ++ "\n")
  | .stopped .version => IO.println CommandLine.versionText
  | .stopped .help => IO.println usageText
  | .stopped .usage => IO.eprintln usageText
  | .aborted _ => IO.eprintln "a date is outside of the calendar"

end FieldFilter.Main

def main (arguments : List String) : IO UInt32 := do
  let outcome ← FieldFilter.CommandLine.run (← FieldFilter.Main.host) arguments
  for w in outcome.warnings do
    IO.eprintln (FieldFilter.Main.warningText w)
  FieldFilter.Main.print outcome.value
  return outcome.value.code.toUInt32
