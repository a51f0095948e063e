import EventFilter.Cli.Choices
import EventFilter.Query.Trace

/-! The three commands. Each is read from its own part of the command line and then carried out. -/
namespace EventFilter.Cli

/-- What the program finds around it. -/
structure Host where
  ambientLabel : Option String
  isDirectory : String → Bool
  runtimeVersion : String
  platform : String

inductive Command where
  | version
  | compile
  | judge
  deriving DecidableEq, Repr

structure Call where
  command : Command
  choices : Choices
  filter : String
  deriving DecidableEq, Repr

/-- What carrying out a command leaves behind. -/
structure Execution where
  result : Except Trouble Output
  collected : List String := []
  entries : List Log.Entry := []

def programVersion : String := "0.1.0"

namespace Command

def name : Command → String
  | version => "version"
  | compile => "compile"
  | judge => "match"

def every : List Command := [version, compile, judge]

def ofName? (text : String) : Option Command := every.find? (·.name = text)

theorem ofName?_name (command : Command) : ofName? command.name = some command := by
  cases command <;> decide

def commonNames : List (String × Key) :=
  [("--json", .json), ("--output", .output), ("--help", .help)]

def filterNames : List (String × Key) :=
  [("--no-prefix", .noLabel), ("--prefix", .label), ("-fc", .critical), ("--critical", .critical),
    ("-fe", .errors), ("--errors", .errors), ("-fw", .warnings), ("--warnings", .warnings),
    ("--level", .level)]

def eventNames : List (String × Key) := [("--event-id", .eventId), ("--event-level", .eventLevel)]

def names : Command → List (String × Key)
  | version => commonNames
  | compile => filterNames ++ commonNames
  | judge => eventNames ++ filterNames ++ commonNames

/-- A command that takes a filter takes one that starts with a hyphen. -/
def vocabulary (command : Command) : Vocabulary Key where
  names := command.names
  letters := [('h', .help)]
  takesValue := Key.takesValue
  interspersed := true
  keepsUnknown := command != version

/-- The filter is the first argument; only the command that judges an event cannot do without. -/
def filterOf (command : Command) (arguments : List String) :
    Except UsageError (String × List String) :=
  match command, arguments with
  | version, arguments => .ok ("", arguments)
  | _, filter :: rest => .ok (filter, rest)
  | compile, [] => .ok ("", [])
  | judge, [] => .error (.missingArgument "EVENT_IDS")

def requireEvent (command : Command) (choices : Choices) : Except UsageError Unit :=
  if command = judge && choices.eventId.isNone then .error (.missingOption "--event-id")
  else .ok ()

/-- Options that were given are looked at in order, then the argument, then what is missing, and
what is too much comes last. `none` stands for a call for help. -/
def read (command : Command) (format : Format) (tokens : List String) :
    Except UsageError (Option Call) := do
  let reading ← command.vocabulary.read .empty tokens
  if reading.options.any (·.1 = .help) then return none
  let choices ← (settle reading.options).foldlM Choices.choose { format }
  let (filter, extra) ← command.filterOf reading.arguments
  command.requireEvent choices
  if extra.isEmpty then return some ⟨command, choices, filter⟩ else .error (.unexpected extra)

end Command

namespace Call

def level (call : Call) : Json := .int call.choices.threshold

def versionData (host : Host) : Json :=
  .obj [("version", .str programVersion), ("pythonVersion", .str host.runtimeVersion),
    ("platform", .str host.platform)]

def compiledData (q : Query) : Json :=
  .obj [("filter", .str (Text.trim q.source)),
    ("level", optional (fun severity => .int severity.number) q.limit), ("query", .str q.text)]

/-- The event that a command line describes. -/
def event (choices : Choices) : Event :=
  [(idField, .int (choices.eventId.getD 0))]
    ++ (choices.eventLevel.map fun level => (severityField, Json.int level)).toList

def judgedData (q : Query) (event : Event) (matched : Bool) : Json :=
  .obj [("query", .str q.text), ("event", .obj event), ("matched", .bool matched)]

/-- Under a limit an event without a severity is never selected, which is worth a warning. -/
def warnings (choices : Choices) (q : Query) : List String :=
  if choices.eventLevel.isNone && q.limit.isSome then
    ["No --event-level given; a severity filter never matches it."]
  else []

def judge (choices : Choices) (q : Query) : Except Trouble Output :=
  match q.holds (event choices) with
  | .ok matched => .ok ⟨judgedData q (event choices) matched, [], if matched then 0 else 1⟩
  | .error error => .error (.ofInteger error)

def execute (host : Host) (call : Call) : Execution :=
  match call.command with
  | .version => { result := .ok { data := versionData host } }
  | command =>
    let label := call.choices.labelIn host.ambientLabel
    let entries := Query.trace call.filter call.level label
    match Query.ofLevel call.filter call.level label with
    | .error failure => { result := .error (.ofFailure failure), entries }
    | .ok q =>
      if command = .judge then
        { result := judge call.choices q, collected := warnings call.choices q, entries }
      else { result := .ok { data := compiledData q }, entries }

end Call
end EventFilter.Cli
