import EventFilter.Predicate.Basic

/-! Whether a predicate holds of an event. A field that is absent or null fails every comparison;
otherwise the field is read as an integer, then the operand. Groups go from left to right and stop
when they are settled, so a field that cannot be read does no harm where it is not reached. -/
namespace EventFilter

/-- A record of named fields. -/
abbrev Event := List (String × Json)

def Event.present (event : Event) (field : String) : Option Json :=
  match event.lookup field with
  | none | some .null => none
  | some value => some value

namespace Predicate

def compareField (event : Event) (field : String) (relation : Relation) (operand : Operand) :
    Except IntegerError Bool :=
  match event.present field with
  | none => .ok false
  | some value => do
    let left ← value.toInt
    let right ← operand.toInt
    return relation.holds left right

mutual

def holds (event : Event) : Predicate → Except IntegerError Bool
  | everything => .ok true
  | compare field relation operand => compareField event field relation operand
  | all first rest => do if ← first.holds event then allHold event rest else return false
  | any first rest => do if ← first.holds event then return true else anyHolds event rest

def allHold (event : Event) : List Predicate → Except IntegerError Bool
  | [] => .ok true
  | p :: ps => do if ← p.holds event then allHold event ps else return false

def anyHolds (event : Event) : List Predicate → Except IntegerError Bool
  | [] => .ok false
  | p :: ps => do if ← p.holds event then return true else anyHolds event ps

end

end Predicate
end EventFilter
