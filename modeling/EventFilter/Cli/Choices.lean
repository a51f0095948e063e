import EventFilter.Cli.Options
import EventFilter.Cli.Report
import EventFilter.Cli.Threshold
import EventFilter.Filter.Label

/-! The options of the commands: what they are called, and what is chosen by giving them. -/
namespace EventFilter.Cli

inductive Key where
  | eventId
  | eventLevel
  | noLabel
  | label
  | critical
  | errors
  | warnings
  | level
  | json
  | output
  | help
  deriving DecidableEq, Repr

def Key.takesValue : Key → Bool
  | .eventId | .eventLevel | .label | .level | .output => true
  | _ => false

structure Choices where
  format : Format
  level : Option Int := none
  warnings : Bool := false
  errors : Bool := false
  critical : Bool := false
  label : Option String := none
  noLabel : Bool := false
  eventId : Option Int := none
  eventLevel : Option Int := none
  deriving DecidableEq, Repr

def severities : Interval := ⟨some 1, some 5⟩

def naturals : Interval := ⟨some 0, none⟩

def readInteger (option : String) (interval : Interval) (text : String) : Except UsageError Int :=
  match Numeral.read text with
  | .error _ => .error (.badValue option (.notInteger text))
  | .ok n => if interval.contains n then .ok n else .error (.badValue option (.outOfRange n interval))

def readFormat (text : String) : Except UsageError Format :=
  match text with
  | "table" => .ok .table
  | "json" => .ok .json
  | _ => .error (.badValue "--output" (.notAChoice text ["table", "json"]))

namespace Choices

/-- Both ways to choose a format set it at once, so the later of them decides. -/
def choose (choices : Choices) (option : Key × String) : Except UsageError Choices :=
  match option with
  | (.eventId, text) => do
    return { choices with eventId := some (← readInteger "--event-id" naturals text) }
  | (.eventLevel, text) => do
    return { choices with eventLevel := some (← readInteger "--event-level" naturals text) }
  | (.level, text) => do
    return { choices with level := some (← readInteger "--level" severities text) }
  | (.output, text) => do return { choices with format := ← readFormat text }
  | (.json, _) => .ok { choices with format := .json }
  | (.label, text) => .ok { choices with label := some text }
  | (.noLabel, _) => .ok { choices with noLabel := true }
  | (.critical, _) => .ok { choices with critical := true }
  | (.errors, _) => .ok { choices with errors := true }
  | (.warnings, _) => .ok { choices with warnings := true }
  | (.help, _) => .ok choices

def threshold (choices : Choices) : Int :=
  Cli.threshold choices.level choices.warnings choices.errors choices.critical

/-- The label to take away: one given, else one that the environment names, else the standard
one. -/
def labelIn (choices : Choices) (ambient : Option String) : Option String :=
  if choices.noLabel then none
  else some (choices.label.getD ((ambient.filter (!·.isEmpty)).getD Label.standard))

end Choices
end EventFilter.Cli
