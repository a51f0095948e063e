import EventFilter.Cli.Trouble
import EventFilter.Json.Display
import EventFilter.Json.Printer
import EventFilter.Text.Markup
import EventFilter.Text.Table

/-! Reports. Whatever a command does ends in one report, which is printed as text for people or as
one line of JSON for programs. The names in a table may hold markup, so a report can turn out to be
unprintable; then the report is on that. -/
namespace EventFilter.Cli

inductive Format where
  | table
  | json
  deriving DecidableEq, Repr

structure Style where
  format : Format := .table
  quiet : Bool := false
  verbosity : Int := 0
  deriving DecidableEq, Repr

structure Report where
  ok : Bool
  command : String
  data : Json := .null
  warnings : List String := []
  durationMs : Nat := 0
  error : Option ErrorInfo := none

/-- What goes to the two output streams. -/
structure Printed where
  out : String := ""
  err : String := ""
  deriving DecidableEq, Repr

def Printed.append (a b : Printed) : Printed := ⟨a.out ++ b.out, a.err ++ b.err⟩

instance : Append Printed := ⟨Printed.append⟩

/-- Why a report cannot be printed. -/
inductive PrintFault where
  | markup (error : Text.MarkupError)
  | tooDeep
  | oversized
  deriving DecidableEq, Repr

def PrintFault.trouble : PrintFault → Trouble
  | markup (.color error) => .ofInteger error
  | markup error => .plain .markup error.message
  | tooDeep => .plain .value "Maximum serialization depth exceeded"
  | oversized => .ofFailure .unwritable

/-- What was printed, and what kept the rest from being printed. -/
structure Printing where
  printed : Printed := {}
  fault : Option PrintFault := none
  deriving DecidableEq, Repr

/-- The next is printed unless something kept the first from being printed. -/
def Printing.andThen (first next : Printing) : Printing :=
  if first.fault.isSome then first else { next with printed := first.printed ++ next.printed }

def optional (encode : α → Json) : Option α → Json
  | some a => encode a
  | none => .null

def ErrorInfo.toJson (info : ErrorInfo) : Json :=
  .obj [("type", .str info.type), ("message", .str info.message),
    ("hint", optional .str info.hint), ("details", optional .obj info.details)]

namespace Report

def toJson (report : Report) : Json :=
  .obj [("ok", .bool report.ok), ("command", .str report.command), ("data", report.data),
    ("warnings", .arr (report.warnings.map .str)),
    ("meta", .obj [("durationMs", .int report.durationMs)]),
    ("error", optional ErrorInfo.toJson report.error)]

/-- A value as text, unless a number in it is too long to be written out. -/
def written (value : Json) : Except PrintFault String :=
  if value.isWritable then .ok value.display else .error .oversized

def cell : Json → Except PrintFault String
  | .null => .ok ""
  | value => written value

/-- Only the names are markup, and they are looked at after the values. -/
def members (rows : List (String × Json)) : Except PrintFault String := do
  let rows ← rows.mapM fun (name, value) => return (name, ← cell value)
  let rows ← rows.mapM fun (name, text) =>
    return (← (Text.renderMarkup name).mapError .markup, text)
  (Text.table rows).mapError fun error => .markup (.color error)

/-- A member as text; an absent one is empty. -/
def shown (data : List (String × Json)) (name : String) : Except PrintFault String :=
  match data.lookup name with
  | some value => written value
  | none => .ok ""

/-- Details are for those who asked for them and did not ask for silence. -/
def Style.wantsDetails (style : Style) : Bool := style.verbosity ≥ 1 && !style.quiet

/-- The text printed on its stream, or the fault in its place. -/
def onStream (stream : String → Printed) : Except PrintFault String → Printing
  | .ok text => { printed := stream text }
  | .error fault => { fault := some fault }

def lineOut (text : String) : Printed := { out := Text.printLine text }

def lineErr (text : String) : Printed := { err := Text.printLine text }

/-- Beside the answer, on the other stream. -/
def details (style : Style) (printing : Printing) : Printing :=
  if Style.wantsDetails style then printing else {}

def verdict (data : List (String × Json)) : String :=
  if ((data.lookup "matched").getD .null).isTruthy then "match" else "no match"

/-- The three commands show the one thing that they were asked for; any other data is shown as it
is. -/
def printData (style : Style) (command : String) (data : Json) : Printing :=
  match command, data with
  | _, .null => {}
  | "version", .obj data =>
    onStream (fun text => { out := Text.printWrapped text }) (shown data "version")
  | "compile", .obj data =>
    let others := members (data.filter (·.1 != "query"))
    (onStream lineOut (shown data "query")).andThen
      (details style (onStream (fun text => { err := text }) others))
  | "match", .obj data =>
    ({ printed := lineOut (verdict data) } : Printing).andThen
      (details style (onStream lineErr (shown data "query")))
  | _, .obj data => onStream (fun text => { out := text }) (members data)
  | _, data => onStream lineOut (written data)

def printError (style : Style) : Option ErrorInfo → Printed
  | none => lineErr "Error"
  | some info =>
    let hint := match info.hint with
      | some hint => if hint.isEmpty || style.quiet then "" else Text.printLine ("Hint: " ++ hint)
      | none => ""
    { err := Text.printLine (info.title ++ ": " ++ info.message) ++ hint }

def printWarnings (style : Style) (warnings : List String) : Printed :=
  if style.quiet then {}
  else { err := String.join (warnings.map fun warning => Text.printLine ("Warning: " ++ warning)) }

/-- Values nest at most this deep in JSON. -/
def maxDepth : Nat := 255

def jsonFault (report : Report) : Option PrintFault :=
  let values := report.data
    :: ((report.error.bind (·.details)).getD []).map fun detail => detail.2
  if values.any fun value => maxDepth < value.depth then some .tooDeep
  else if report.toJson.isWritable then none
  else some .oversized

/-- Warnings come last, unless something could not be printed before them. -/
def print (style : Style) (report : Report) : Printing :=
  match style.format with
  | .json =>
    match report.jsonFault with
    | some fault => { fault := some fault }
    | none => { printed.out := report.toJson.render ++ "\n" }
  | .table =>
    let body := if report.ok then printData style report.command report.data
      else { printed := printError style report.error }
    body.andThen { printed := printWarnings style report.warnings }

end Report

/-- What a command gives back when it succeeds; a negative answer may have an exit code. -/
structure Output where
  data : Json := .null
  warnings : List String := []
  exit : Int := 0

/-- How a command ends that ran. -/
structure Ending where
  printed : Printed
  exit : Int
  deriving DecidableEq, Repr

/-- A failure is reported after what was printed before it. If not even that can be printed, there
is no end to report. -/
def fail (style : Style) (command : String) (collected : List String) (durationMs : Nat)
    (before : Printed) (trouble : Trouble) : Except Trouble Ending :=
  let report : Report := ⟨false, command, .null, collected, durationMs, some trouble.info⟩
  match report.print style with
  | ⟨printed, none⟩ => .ok ⟨before ++ printed, trouble.exit⟩
  | ⟨_, some fault⟩ => .error fault.trouble

/-- Reports what a command came to. Warnings collected on the way count unless the command gives its
own. -/
def conclude (style : Style) (command : String) (collected : List String) (durationMs : Nat) :
    Except Trouble Output → Except Trouble Ending
  | .error trouble => fail style command collected durationMs {} trouble
  | .ok output =>
    let warnings := if output.warnings.isEmpty then collected else output.warnings
    let report : Report := ⟨true, command, output.data, warnings, durationMs, none⟩
    match report.print style with
    | ⟨printed, none⟩ => .ok ⟨printed, output.exit⟩
    | ⟨printed, some fault⟩ => fail style command collected durationMs printed fault.trouble

end EventFilter.Cli
