import EventFilter.Failure

/-! Predicates on event records: comparisons of one field with a number, joined by groups. A group
has a first member, so none is empty. -/
namespace EventFilter

inductive Relation where
  | eq
  | ne
  | lt
  | le
  | gt
  | ge
  deriving DecidableEq, Repr

namespace Relation

def symbol : Relation → String
  | eq => "="
  | ne => "!="
  | lt => "<"
  | le => "<="
  | gt => ">"
  | ge => ">="

def ofSymbol? : String → Option Relation
  | "=" => some eq
  | "!=" => some ne
  | "<" => some lt
  | "<=" => some le
  | ">" => some gt
  | ">=" => some ge
  | _ => none

def holds (left right : Int) : Relation → Bool
  | eq => left == right
  | ne => left != right
  | lt => left < right
  | le => left ≤ right
  | gt => left > right
  | ge => left ≥ right

theorem ofSymbol?_symbol (relation : Relation) : ofSymbol? relation.symbol = some relation := by
  cases relation <;> rfl

end Relation

/-- What a field is compared with: a number, or the text of one as it was typed. -/
inductive Operand where
  | int (n : Int)
  | text (numeral : String)
  | flag (b : Bool)
  deriving DecidableEq, Repr

namespace Operand

def display : Operand → String
  | int n => toString n
  | text numeral => numeral
  | flag true => "True"
  | flag false => "False"

def toInt : Operand → Except IntegerError Int
  | int n => .ok n
  | text numeral => Numeral.read numeral
  | flag b => .ok b.toInt

/-- Truth values are numbers too, so they may equal one. -/
def same : Operand → Operand → Bool
  | text a, text b => a == b
  | text _, _ | _, text _ => false
  | int a, int b => a == b
  | int a, flag b | flag b, int a => a == b.toInt
  | flag a, flag b => a == b

end Operand

inductive Predicate where
  | everything
  | compare (field : String) (relation : Relation) (operand : Operand)
  | all (first : Predicate) (rest : List Predicate)
  | any (first : Predicate) (rest : List Predicate)

namespace Predicate

def allOf : List Predicate → Except Failure Predicate
  | [] => .error (.emptyGroup .all)
  | first :: rest => .ok (all first rest)

def anyOf : List Predicate → Except Failure Predicate
  | [] => .error (.emptyGroup .any)
  | first :: rest => .ok (any first rest)

def comparison (field symbol : String) (operand : Operand) : Except Failure Predicate :=
  match Relation.ofSymbol? symbol with
  | some relation => .ok (compare field relation operand)
  | none => .error (.unknownOperator symbol)

def both (a b : Predicate) : Predicate := all a [b]

def either (a b : Predicate) : Predicate := any a [b]

def between (field : String) (first last : Operand) : Predicate :=
  both (compare field .ge first) (compare field .le last)

def outside (field : String) (first last : Operand) : Predicate :=
  either (compare field .lt first) (compare field .gt last)

/-- The members of a group; a predicate of another kind is its own only member. -/
def members : Predicate → List Predicate
  | all first rest | any first rest => first :: rest
  | predicate => [predicate]

mutual

/-- Equal as trees, with operands equal as numbers or as texts. -/
def same : Predicate → Predicate → Bool
  | everything, everything => true
  | compare field relation operand, compare field' relation' operand' =>
    field == field' && relation == relation' && operand.same operand'
  | all first rest, all first' rest' => first.same first' && sameList rest rest'
  | any first rest, any first' rest' => first.same first' && sameList rest rest'
  | _, _ => false

def sameList : List Predicate → List Predicate → Bool
  | [], [] => true
  | p :: ps, q :: qs => p.same q && sameList ps qs
  | _, _ => false

end

end Predicate
end EventFilter
