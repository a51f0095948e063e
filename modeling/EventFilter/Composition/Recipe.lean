import EventFilter.Query.Basic

/-! Predicates put together by hand. A recipe names each step; building it takes the parts from
left to right, each before the whole, and stops at the first that fails. -/
namespace EventFilter

inductive FieldTest where
  | relation (relation : Relation) (operand : Operand)
  | between (first last : Operand)
  | outside (first last : Operand)
  deriving DecidableEq, Repr

def FieldTest.on (field : String) : FieldTest → Predicate
  | .relation r operand => .compare field r operand
  | .between first last => .between field first last
  | .outside first last => .outside field first last

inductive Recipe where
  | everything
  | comparison (field symbol : String) (operand : Operand)
  | field (name : String) (test : FieldTest)
  | group (connective : Connective) (parts : List Recipe)
  | query (source : String) (level : Json)

def Predicate.ofConnective (connective : Connective) (parts : List Predicate) :
    Except Failure Predicate :=
  match connective with
  | .all => Predicate.allOf parts
  | .any => Predicate.anyOf parts

namespace Recipe

mutual

def build : Recipe → Except Failure Predicate
  | everything => .ok .everything
  | comparison name symbol operand => Predicate.comparison name symbol operand
  | field name test => .ok (test.on name)
  | group connective parts => do Predicate.ofConnective connective (← buildList parts)
  | query source level => (Query.ofLevel source level (some Label.standard)).map Query.predicate

def buildList : List Recipe → Except Failure (List Predicate)
  | [] => .ok []
  | recipe :: recipes => do
    let p ← recipe.build
    return p :: (← buildList recipes)

end

end Recipe
end EventFilter
