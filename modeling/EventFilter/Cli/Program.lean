import EventFilter.Cli.Command
import EventFilter.Log.Channel

/-! The program as a whole: from a command line to what is printed, the exit code, and the log
file. Options in front of the command hold for every command; once the command is known the log is
opened, so a mistake after the command's name leaves an empty log behind. -/
namespace EventFilter.Cli

inductive GroupKey where
  | output
  | json
  | quiet
  | verbose
  | logFile
  | version
  | help
  deriving DecidableEq, Repr

def groupVocabulary : Vocabulary GroupKey where
  names := [("--output", .output), ("--json", .json), ("--quiet", .quiet),
    ("--log-file", .logFile), ("--version", .version), ("--help", .help)]
  letters := [('q', .quiet), ('v', .verbose), ('h', .help)]
  takesValue := fun key => key = .output || key = .logFile
  interspersed := false
  keepsUnknown := false

structure Settings where
  style : Style := {}
  logFile : Option String := none
  deriving DecidableEq, Repr

structure Outcome where
  printed : Printed := {}
  exit : Int := 0
  usage : Option UsageError := none
  /-- The log files that were opened, with what is added to each. -/
  logs : Log.Files := []

/-- What the options in front of the command ask for. -/
inductive Opening where
  | version
  | help
  | proceed (settings : Settings) (arguments : List String)
  deriving DecidableEq, Repr

namespace Settings

def choose (host : Host) (settings : Settings) (option : GroupKey × String) :
    Except UsageError Settings :=
  match option with
  | (.output, text) => do
    return { settings with style.format := ← readFormat text }
  | (.quiet, _) => .ok { settings with style.quiet := true }
  | (.logFile, path) =>
    if host.isDirectory path then .error (.badValue "--log-file" (.directory path))
    else .ok { settings with logFile := if path.isEmpty then none else some path }
  | _ => .ok settings

/-- In front of the command the flag for JSON wins over a named format. -/
def ofOptions (host : Host) (options : List (GroupKey × String)) : Except UsageError Settings := do
  let settings ← (settle options).foldlM (choose host) {}
  let verbosity := options.countP (·.1 = .verbose)
  let format := if options.any (·.1 = .json) then Format.json else settings.style.format
  return { settings with style := { settings.style with format, verbosity } }

end Settings

def Opening.read (host : Host) (tokens : List String) : Except UsageError Opening := do
  let reading ← groupVocabulary.read .empty tokens
  match reading.options.find? fun option => option.1 = .version || option.1 = .help with
  | some (.version, _) => return .version
  | some _ => return .help
  | none => return .proceed (← Settings.ofOptions host reading.options) reading.arguments

namespace Program

def versionLine : String := "evtquery, version " ++ programVersion ++ "\n"

def help : String :=
  "Usage: evtquery [--output table|json] [--json] [-q] [-v] [--log-file FILE] COMMAND [ARGS]\n\n"
    ++ "Compile event-ID filters into Windows Event Log queries.\n\n"
    ++ "  version                            Show version information.\n"
    ++ "  compile [OPTIONS] [EVENT_IDS]      Compile a filter into an event log query.\n"
    ++ "  match [OPTIONS] EVENT_IDS --event-id N\n"
    ++ "                                     Check whether a filter selects one event.\n"

def refused (error : UsageError) (logs : Log.Files) : Outcome :=
  { exit := 2, usage := some error, logs }

def printedOnly (text : String) (logs : Log.Files) : Outcome :=
  { printed := { out := text }, logs }

/-- The log records come before the report. -/
def perform (host : Host) (settings : Settings) (call : Call) : Outcome :=
  let execution := call.execute host
  let channel := Log.Channel.configured settings.style.verbosity settings.logFile
  let written := execution.entries.foldl (Log.Written.emit channel)
    (Log.Written.opened {} settings.logFile)
  let style := { settings.style with format := call.choices.format }
  let logged : Printed := { err := String.join (written.terminal.map (· ++ "\n")) }
  match conclude style call.command.name execution.collected 0 execution.result with
  | .ok ending => { printed := logged ++ ending.printed, exit := ending.exit, logs := written.files }
  | .error trouble =>
    { printed := logged ++ { err := Text.printLine trouble.message }, exit := trouble.exit,
      logs := written.files }

def runCommand (host : Host) (settings : Settings) (command : Command) (tokens : List String) :
    Outcome :=
  let logs := (Log.Written.opened {} settings.logFile).files
  match command.read settings.style.format tokens with
  | .error error => refused error logs
  | .ok none => printedOnly help logs
  | .ok (some call) => perform host settings call

/-- A name that is no command but looks like an option is read as one first. -/
def unknownCommand (host : Host) (name : String) (tokens : List String) : Outcome :=
  match Opening.read host (name :: tokens) with
  | .error error => refused error []
  | .ok .version => printedOnly versionLine []
  | .ok .help => printedOnly help []
  | .ok (.proceed _ _) => refused (.unknownCommand name (Command.every.map Command.name)) []

def run (host : Host) (tokens : List String) : Outcome :=
  match Opening.read host tokens with
  | .error error => refused error []
  | .ok .version => printedOnly versionLine []
  | .ok .help | .ok (.proceed _ []) => printedOnly help []
  | .ok (.proceed settings (name :: tokens)) =>
    match Command.ofName? name with
    | some command => runCommand host settings command tokens
    | none => unknownCommand host name tokens

end Program
end EventFilter.Cli
