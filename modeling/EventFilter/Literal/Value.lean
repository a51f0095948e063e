import EventFilter.Decimal.Shortest
import EventFilter.Literal.Parser

/-! Literals: expressions that stand for a value by themselves. Numbers, texts and constants are
literals, and so are tuples, sets and dictionaries of them, the sum of a real and an imaginary
number, and the empty set, which has no notation but a call. -/
namespace EventFilter.Literal

/-- Values as far as it matters whether they can be kept in a set. -/
inductive Value where
  | plain
  | tuple (members : List Value)
  | set
  | dict
  deriving Repr

inductive ValueFault where
  | malformed
  /-- The members of another dictionary are no member. -/
  | unpacked
  | unhashable (kind : String)
  | oversized
  deriving DecidableEq, Repr

def ValueFault.message : ValueFault → String
  | malformed => "malformed node or string"
  | unpacked => "malformed node or string: None"
  | unhashable kind => "unhashable type: '" ++ kind ++ "'"
  | oversized => "int too large to convert to float"

mutual

/-- Sets and dictionaries can change, so they cannot be kept in a set, even within a tuple. -/
def Value.checkHash : Value → Except ValueFault Unit
  | plain => .ok ()
  | tuple members => checkHashes members
  | set => .error (.unhashable "set")
  | dict => .error (.unhashable "dict")

def Value.checkHashes : List Value → Except ValueFault Unit
  | [] => .ok ()
  | value :: values => do value.checkHash; checkHashes values

end

inductive NumberKind where
  | whole (value : Nat)
  | real
  | imaginary
  deriving DecidableEq, Repr

def valueIn (base : Nat) (digits : List Char) : Nat :=
  digits.foldl (fun n c => base * n + (Text.hexValue? c).getD 0) 0

def NumberKind.ofChars (chars : List Char) : NumberKind :=
  match chars.filter (· != '_') with
  | '0' :: c :: digits =>
    if c = 'x' || c = 'X' then whole (valueIn 16 digits)
    else if c = 'o' || c = 'O' then whole (valueIn 8 digits)
    else if c = 'b' || c = 'B' then whole (valueIn 2 digits)
    else decimal ('0' :: c :: digits)
  | digits => decimal digits
where
  decimal (digits : List Char) : NumberKind :=
    if digits.getLast?.any fun c => c = 'j' || c = 'J' then imaginary
    else if digits.all Text.isAsciiDigit then whole (valueIn 10 digits)
    else real

def number? : Tree → Except ValueFault NumberKind
  | .leaf token =>
    if token.kind = .number then .ok (.ofChars token.chars) else .error .malformed
  | .node _ _ => .error .malformed

/-- A number, perhaps with a sign. -/
def signed? : Tree → Except ValueFault NumberKind
  | .node .signed [tree] => number? tree
  | tree => number? tree

/-- Whole numbers from here on are nearer to no double than to infinity. -/
def doubleBound : Nat := Decimal.pow2 1024 - Decimal.pow2 970

/-- A sum or difference stands for a complex number, the real part first. -/
def complex (left right : Tree) : Except ValueFault Value := do
  match ← signed? left, ← number? right with
  | .whole n, .imaginary => if doubleBound ≤ n then .error .oversized else return .plain
  | .real, .imaginary => return .plain
  | _, _ => .error .malformed

def isSetName : Tree → Bool
  | .leaf token => token.kind = .name && token.chars = "set".toList
  | .node _ _ => false

mutual

def Tree.value : Tree → Except ValueFault Value
  | leaf token =>
    match token.kind with
    | .symbol | .number => .ok .plain
    | _ => .error .malformed
  | node form children =>
    match form with
    | .text =>
      if children.any Tree.isTemplate then .error .malformed else .ok .plain
    | .tuple => do return .tuple (← values children)
    | .set => do hashedValues children; return .set
    | .dict => do memberValues children; return .dict
    | .signed => do let _ ← signed? (node form children); return .plain
    | .additive =>
      match children with
      | [left, right] => complex left right
      | _ => .error .malformed
    | .call =>
      match children with
      | [function] => if isSetName function then .ok .set else .error .malformed
      | _ => .error .malformed
    | _ => .error .malformed

def Tree.values : List Tree → Except ValueFault (List Value)
  | [] => .ok []
  | child :: children => do return (← child.value) :: (← values children)

/-- Each member is looked at and put into the set before the next one. -/
def Tree.hashedValues : List Tree → Except ValueFault Unit
  | [] => .ok ()
  | child :: children => do
    (← child.value).checkHash
    hashedValues children

/-- Keys and values in turn; a key is put into the dictionary when its value is known. -/
def Tree.memberValues : List Tree → Except ValueFault Unit
  | [] => .ok ()
  | node .pair [key, value] :: children => do
    let key ← key.value
    let _ ← value.value
    key.checkHash
    memberValues children
  | _ :: _ => .error .unpacked

end

/-- Why a text is no literal. -/
inductive Fault where
  | expression (fault : ReadFault)
  | value (fault : ValueFault)
  deriving DecidableEq, Repr

/-- Blanks in front of a literal are passed over. -/
def check (cs : List Char) : Except Fault Unit :=
  match readExpression (cs.dropWhile fun c => c = ' ' || c = '\t') with
  | .error fault => .error (.expression fault)
  | .ok tree =>
    if Tree.maxDepth < tree.depth then .error (.expression (.limit .depth))
    else match tree.value with
    | .ok _ => .ok ()
    | .error fault => .error (.value fault)

end EventFilter.Literal
