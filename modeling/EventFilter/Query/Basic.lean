import EventFilter.Filter.Label
import EventFilter.Predicate.Holds
import EventFilter.Predicate.Printer
import EventFilter.Query.Build
import EventFilter.Severity

/-! Queries: a filter that has been read and found sound, with its severity limit. -/
namespace EventFilter

structure Query where
  /-- The filter as it was given, labels and blanks included. -/
  source : String
  limit : Option Severity
  selection : Selection

namespace Query

def check (source : String) (selection : Selection) : Except Failure Unit :=
  if selection.isAmbiguous then .error (.filter .ambiguous source) else .ok ()

/-- Reads what is left of the source once its labels are gone; faults echo the source itself. -/
def read (source : String) (label : Option String) : Except Failure Selection :=
  (Selection.parse (Label.strip label source)).mapError fun fault => .filter fault source

def compile (source : String) (limit : Option Severity) (label : Option String) :
    Except Failure Query := do
  let selection ← read source label
  check source selection
  return ⟨source, limit, selection⟩

/-- The limit is settled before the filter is looked at. -/
def ofLevel (source : String) (level : Json) (label : Option String) : Except Failure Query := do
  compile source (← Severity.ofJson level) label

def predicate (q : Query) : Predicate := q.selection.predicate (Severity.code q.limit)

def text (q : Query) : String := q.predicate.system

def holds (q : Query) (event : Event) : Except IntegerError Bool := q.predicate.holds event

def describe (q : Query) : String :=
  "EventIdQuery(" ++ Text.quoted q.source ++ ", level=" ++ toString (Severity.code q.limit) ++ ")"

end Query
end EventFilter
