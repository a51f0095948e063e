import EventFilter.Literal.Token

/-! Expressions as trees of tokens. Punctuation is left out, and so are brackets that only group. -/
namespace EventFilter.Literal

inductive Form where
  | tuple
  | set
  | dict
  /-- A key and its value. -/
  | pair
  /-- The members of another dictionary. -/
  | unpacked
  | text
  | additive
  | binary
  | signed
  | unary
  | boolean
  | comparison
  | conditional
  | function
  | assignment
  | awaited
  | yielded
  | starred
  | attribute
  | call
  | arguments
  | keyword
  | keywords
  | generator
  | setComprehension
  | dictComprehension
  | clause
  deriving DecidableEq, Repr

inductive Tree where
  | leaf (token : Token)
  | node (form : Form) (children : List Tree)
  deriving Repr

namespace Tree

def isForm (form : Form) : Tree → Bool
  | node f _ => f = form
  | leaf _ => false

/-- Whether a text is a template, by the letters in front of it. -/
def isTemplate : Tree → Bool
  | leaf token =>
    token.kind = .text && (token.chars.takeWhile isMark).any fun c => c = 'f' || c = 'F'
  | node _ _ => false
where
  isMark (c : Char) : Bool := c ≠ '"' && c ≠ '\x27'

/-- What an expression is called where it cannot stand. -/
def description : Tree → String
  | leaf token =>
    match token.kind with
    | .name => "name"
    | .symbol => if token.chars = ['.', '.', '.'] then "ellipsis" else String.ofList token.chars
    | _ => "literal"
  | node form children =>
    match form with
    | .tuple => "tuple"
    | .set => "set display"
    | .dict => "dict literal"
    | .text => if children.any isTemplate then "f-string expression" else "literal"
    | .comparison => "comparison"
    | .conditional => "conditional expression"
    | .function => "lambda"
    | .assignment => "named expression"
    | .awaited => "await expression"
    | .yielded => "yield expression"
    | .starred => "starred"
    | .attribute => "attribute"
    | .call => "function call"
    | .generator => "generator expression"
    | .setComprehension => "set comprehension"
    | .dictComprehension => "dict comprehension"
    | _ => "expression"

mutual

/-- How many expressions stand one within another. -/
def depth : Tree → Nat
  | leaf _ => 1
  | node _ children => depths children + 1

def depths : List Tree → Nat
  | [] => 0
  | child :: children => max (depth child) (depths children)

end

/-- A deeper tree is refused. -/
def maxDepth : Nat := 2900

mutual

/-- What of an expression no value can be assigned to when a loop runs over it. In a comparison
that asks whether something is in a list, the something is meant. -/
def unassignable? : Tree → Option Tree
  | leaf token => if token.kind = .name then none else some (leaf token)
  | node form children =>
    match form with
    | .tuple => anyUnassignable? children
    | .starred => anyUnassignable? children
    | .comparison => comparedUnassignable? children
    | .attribute => none
    | _ => some (node form children)

def anyUnassignable? : List Tree → Option Tree
  | [] => none
  | child :: children =>
    match unassignable? child with
    | some found => some found
    | none => anyUnassignable? children

def comparedUnassignable? : List Tree → Option Tree
  | left :: leaf operator :: _ =>
    if operator.chars = ['i', 'n'] then unassignable? left else none
  | _ => none

end

end Tree

end EventFilter.Literal
