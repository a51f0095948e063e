import EventFilter.Cli.Program
import Std.Time.Zoned

/-! The executable: what the program finds around it goes in, and what it says and logs goes out. -/
namespace EventFilter.Cli

def labelVariable : String := "EVTQUERY_MESSAGE_PREFIX"

/-- Opening it for writing fails in a way of its own, and leaves everything else as it was. -/
def isFolder (path : String) : IO Bool := do
  match ← (IO.FS.Handle.mk path .readWrite).toBaseIO with
  | .error (.inappropriateType ..) => return true
  | _ => return false

def firstLine (path : String) : IO String := do
  match ← (IO.FS.readFile path).toBaseIO with
  | .ok text => return Text.trim text
  | .error _ => return "unknown"

/-- Any argument may name a path, alone or as the value of an option. -/
def pathsIn (tokens : List String) : List String :=
  tokens.flatMap fun token => [token, "=".intercalate ((token.splitOn "=").drop 1)]

def Host.current (tokens : List String) : IO Host := do
  let folders ← (pathsIn tokens).filterM isFolder
  let system ← firstLine "/proc/sys/kernel/ostype"
  let release ← firstLine "/proc/sys/kernel/osrelease"
  return {
    ambientLabel := ← IO.getEnv labelVariable
    isDirectory := folders.contains
    runtimeVersion := "4.33.0"
    platform := system ++ "-" ++ release }

def twoDigits (n : Int) : String := if n < 10 then "0" ++ toString n else toString n

def threeDigits (n : Int) : String := if n < 100 then "0" ++ twoDigits n else toString n

def timestamp : IO String := do
  let now ← Std.Time.PlainDateTime.now
  let date := "-".intercalate [toString now.year.toInt, twoDigits now.month.val,
    twoDigits now.day.val]
  let time := ":".intercalate [twoDigits now.hour.val, twoDigits now.minute.val,
    twoDigits now.second.val]
  return date ++ " " ++ time ++ "," ++ threeDigits (now.nanosecond.val / 1000000)

def folderOf (path : String) : String := "/".intercalate (path.splitOn "/").dropLast

/-- Opening a log file makes it, and the folders above it. -/
def appendLog (path : String) (entries : List Log.Entry) : IO Unit := do
  let folder := folderOf path
  if !folder.isEmpty then IO.FS.createDirAll folder
  let file ← IO.FS.Handle.mk path .append
  for entry in entries do
    file.putStrLn ((← timestamp) ++ " " ++ entry.fileText)

def Outcome.perform (outcome : Outcome) : IO UInt32 := do
  outcome.logs.forM fun (path, entries) => appendLog path entries
  IO.eprint outcome.printed.err
  IO.print outcome.printed.out
  if let some error := outcome.usage then
    IO.eprintln ("Try 'evtquery --help' for help.\n\nError: " ++ error.message)
  return outcome.exit.toNat.toUInt32

end EventFilter.Cli

def main (arguments : List String) : IO UInt32 := do
  let host ← EventFilter.Cli.Host.current arguments
  (EventFilter.Cli.Program.run host arguments).perform
