import EventFilter.Composition.Recipe

/-! A stack of predicates, the top first. A move that fails leaves no new stack. -/
namespace EventFilter

abbrev Stack := List Predicate

inductive Move where
  | push (recipe : Recipe)
  | join (connective : Connective)
  | group (connective : Connective) (count : Nat)
  | duplicate
  | swap
  | drop
  | spread
  | judge (event : Event)
  | compareTops

inductive Answer where
  | silent
  /-- One verdict for each predicate, from the bottom up. -/
  | verdicts (verdicts : List Bool)
  | same (same : Bool)
  deriving DecidableEq, Repr

inductive StackError where
  | underflow
  | tooShort
  | failure (cause : Failure)
  deriving DecidableEq, Repr

def StackError.message : StackError → String
  | underflow => "stack underflow"
  | tooShort => "list index out of range"
  | failure cause => cause.message

namespace Stack

def verdicts (event : Event) (stack : Stack) : Except IntegerError (List Bool) :=
  stack.reverse.mapM fun p => p.holds event

def group (connective : Connective) (count : Nat) (stack : Stack) : Except StackError Stack :=
  if stack.length < count then .error .underflow
  else
    match Predicate.ofConnective connective (stack.take count).reverse with
    | .ok p => .ok (p :: stack.drop count)
    | .error failure => .error (.failure failure)

def apply : Move → Stack → Except StackError (Stack × Answer)
  | .push recipe, stack =>
    match recipe.build with
    | .ok p => .ok (p :: stack, .silent)
    | .error failure => .error (.failure failure)
  | .join connective, stack => do return (← group connective 2 stack, .silent)
  | .group connective count, stack => do return (← group connective count stack, .silent)
  | .duplicate, p :: stack => .ok (p :: p :: stack, .silent)
  | .swap, p :: q :: stack => .ok (q :: p :: stack, .silent)
  | .drop, _ :: stack => .ok (stack, .silent)
  | .spread, p :: stack => .ok (p.members.reverse ++ stack, .silent)
  | .duplicate, _ | .swap, _ | .drop, _ | .spread, _ => .error .underflow
  | .judge event, stack =>
    match verdicts event stack with
    | .ok verdicts => .ok (stack, .verdicts verdicts)
    | .error error => .error (.failure (.integer error))
  | .compareTops, p :: q :: stack => .ok (p :: q :: stack, .same (p.same q))
  | .compareTops, _ => .error .tooShort

end Stack
end EventFilter
