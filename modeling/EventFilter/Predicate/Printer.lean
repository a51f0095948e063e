import EventFilter.Predicate.Basic

/-! The text of a predicate. Every group has one pair of brackets, also around a single member, so
the brackets show the tree. -/
namespace EventFilter.Predicate

mutual

def render : Predicate → String
  | everything => "*"
  | compare field relation operand => field ++ " " ++ relation.symbol ++ " " ++ operand.display
  | all first rest => "(" ++ first.render ++ renderRest " and " rest ++ ")"
  | any first rest => "(" ++ first.render ++ renderRest " or " rest ++ ")"

def renderRest (joint : String) : List Predicate → String
  | [] => ""
  | p :: ps => joint ++ p.render ++ renderRest joint ps

end

/-- The form in which an event log takes a predicate on its system fields. -/
def system (p : Predicate) : String := "*[System[" ++ p.render ++ "]]"

def describe (p : Predicate) : String := "Expression(" ++ Text.quoted p.render ++ ")"

def describeSystem (p : Predicate) : String := "SystemQuery(body=" ++ p.describe ++ ")"

end EventFilter.Predicate
