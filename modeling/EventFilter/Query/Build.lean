import EventFilter.Filter.Selection
import EventFilter.Predicate.Basic

/-! The predicate of a selection: what is included and what is excluded, under a severity limit.
Parts that are absent leave no trace, and a lone span is not put into a group. -/
namespace EventFilter

def idField : String := "EventID"

def severityField : String := "Level"

namespace Selection

def joinAny : List Predicate → Option Predicate
  | [] => none
  | [p] => some p
  | p :: ps => some (.any p ps)

def joinAll : List Predicate → Option Predicate
  | [] => none
  | [p] => some p
  | p :: ps => some (.all p ps)

/-- Any of the IDs, which always stand in a group. -/
def includedIdsPart (s : Selection) : Option Predicate :=
  match s.includedIds.map fun id => Predicate.compare idField .eq (.text id) with
  | [] => none
  | p :: ps => some (.any p ps)

def includedSpansPart (s : Selection) : Option Predicate :=
  joinAny (s.includedSpans.map fun span => .between idField (.text span.first) (.text span.last))

def excludedIdsPart (s : Selection) : Option Predicate :=
  match s.excludedIds.map fun id => Predicate.compare idField .ne (.text id) with
  | [] => none
  | p :: ps => some (.all p ps)

def excludedSpansPart (s : Selection) : Option Predicate :=
  joinAll (s.excludedSpans.map fun span => .outside idField (.text span.first) (.text span.last))

def includedHalf (s : Selection) : Option Predicate :=
  joinAny (s.includedIdsPart.toList ++ s.includedSpansPart.toList)

def excludedHalf (s : Selection) : Option Predicate :=
  joinAll (s.excludedIdsPart.toList ++ s.excludedSpansPart.toList)

/-- The condition on the ID alone, if the selection makes one. -/
def events (s : Selection) : Option Predicate :=
  match s.includedHalf.toList ++ s.excludedHalf.toList with
  | [] => none
  | p :: ps => some (.all p ps)

/-- At least as severe as the limit, and of some severity. -/
def severityPart (limit : Int) : Predicate :=
  .both (.compare severityField .gt (.int 0)) (.compare severityField .le (.int limit))

/-- The code for no limit leaves out the severity. -/
def predicate (s : Selection) (limit : Int) : Predicate :=
  if limit = -1 then s.events.getD (.all .everything [])
  else .all (severityPart limit) s.events.toList

end Selection
end EventFilter
