import EventFilter.Json.Integer
import EventFilter.Literal.Grammar
import EventFilter.Literal.Template
import Std.Data.HashMap

/-! Reading expressions. A pattern is matched against the tokens from a position on. What is found
wrong depends on how far the tokens had to be looked at, so that is kept track of. -/
namespace EventFilter.Literal

/-- The tokens of an expression, how to read expressions within its texts, and how many rules and
groups are being read. What is said of an embedded expression says so in front. -/
structure Source where
  tokens : Array Token
  scanned : Scanned
  embedded? : List Char → Option ReadFault
  isEmbedded : Bool
  level : Nat := 0

inductive Stop where
  /-- The tokens end before the expression does. -/
  | scan (fault : ScanFault)
  | fault (fault : ReadFault)
  deriving DecidableEq, Repr

/-- The trees of what was matched, and the position behind it. -/
abbrev Match := Option (List Tree × Nat)

structure Progress where
  /-- How many tokens were looked at. -/
  seen : Nat := 0
  findsMistakes : Bool := false
  remembered : Std.HashMap (Rule × Nat) Match := {}

abbrev Reader := ExceptT Stop (StateM Progress)

namespace Source

def ofScanned (scanned : Scanned) (embedded? : List Char → Option ReadFault) (isEmbedded : Bool) :
    Source :=
  { tokens := scanned.tokens.toArray, scanned, embedded?, isEmbedded }

def label (source : Source) (message : String) : String :=
  if source.isEmbedded then "f-string: " ++ message else message

def raise (source : Source) (message : String) : Reader α :=
  throw (.fault (.mistake (source.label message)))

/-- No more rules and groups than these are read at once. -/
def maxLevel : Nat := 6000

/-- One level further in. -/
def enter (source : Source) : Reader Source :=
  if maxLevel ≤ source.level then throw (.fault (.limit .level))
  else return { source with level := source.level + 1 }

def tokenAt (source : Source) (position : Nat) : Reader Token := do
  match source.tokens[position]? with
  | some token =>
    modify fun progress => { progress with seen := max progress.seen (position + 1) }
    return token
  | none => throw (.scan (source.scanned.fault.getD .endExpected))

/-- Trees of one token that fits. -/
def expect (source : Source) (position : Nat) (fits : Token → Bool)
    (trees : Token → List Tree) : Reader Match := do
  let token ← source.tokenAt position
  return if fits token then some (trees token, position + 1) else none

/-- A decimal numeral with too many digits is refused, unless they are all zeros. -/
def checkNumber (source : Source) (token : Token) : Reader Unit := do
  let digits := token.chars.filter (· != '_')
  if digits.all Text.isAsciiDigit && digits.any (· != '0') && Text.maxDigits < digits.length then
    source.raise ((IntegerError.oversized digits.length).message
      ++ " - Consider hexadecimal for huge integer literals to avoid decimal conversion limits.")

def checkText (source : Source) (trees : List Tree) : Reader Unit := do
  let quotations := trees.filterMap fun
    | .leaf token => some (Quotation.ofToken token)
    | .node _ _ => none
  match checkTexts source.embedded? none quotations with
  | .ok () => return
  | .error (.embedded fault) => throw (.fault fault)
  | .error fault => source.raise fault.message

end Source

/-- Words that look like a statement of old. -/
def isLegacy : Tree → Bool
  | .leaf token => token.kind = .name
      && (token.chars = "print".toList || token.chars = "exec".toList)
  | .node _ _ => false

def isNamedArgument (tree : Tree) : Bool := tree.isForm .keyword || tree.isForm .keywords

/-- Arguments that have no name. -/
def unnamed : List Tree → List Tree
  | .node .arguments arguments :: _ => arguments.filter (!isNamedArgument ·)
  | _ => []

def unpacksNames : List Tree → Bool
  | .node .arguments arguments :: _ => arguments.any (·.isForm .keywords)
  | _ => false

/-- The message of a complaint about these trees, before which `last` stands; none if there is
nothing to complain of. -/
def Complaint.message? (complaint : Complaint) (trees : List Tree) (last : Option Token) :
    Option String :=
  let subject := trees.head?
  let described := (subject.map Tree.description).getD ""
  match complaint with
  | plain message => some message
  | missingComma =>
    if subject.any isLegacy || last.any (·.depth = 0) then none
    else some "invalid syntax. Perhaps you forgot a comma?"
  | missingParentheses =>
    match subject with
    | some (.leaf token) =>
      if isLegacy (.leaf token) then
        let name := String.ofList token.chars
        some ("Missing parentheses in call to '" ++ name ++ "'. Did you mean " ++ name ++ "(...)?")
      else none
    | _ => none
  | assignmentTarget => some ("cannot use assignment expressions with " ++ described)
  | equality =>
    some ("cannot assign to " ++ described ++ " here. Maybe you meant '==' instead of '='?")
  | constant => some ("cannot assign to " ++ described)
  | loopTarget =>
    (subject.bind Tree.unassignable?).map fun tree => "cannot assign to " ++ tree.description
  | bareGenerator =>
    if (unnamed trees).length ≤ 1 then none else some Literal.bareGenerator
  | positional =>
    if unpacksNames trees then some "positional argument follows keyword argument unpacking"
    else some "positional argument follows keyword argument"

mutual

/-- Fuel is spent on every pattern. -/
def read (source : Source) : Nat → Pattern → Nat → Reader Match
  | 0, _, _ => return none
  | fuel + 1, pattern, position =>
    match pattern with
    | .symbol text => source.expect position
        (fun token => token.kind = .symbol && token.chars = text.toList) fun _ => []
    | .kept text => source.expect position
        (fun token => token.kind = .symbol && token.chars = text.toList) fun token => [.leaf token]
    | .token kind => do
      let found ← source.expect position (·.kind = kind) fun token => [.leaf token]
      if let some ([.leaf token], _) := found then
        if kind = .number then source.checkNumber token
      return found
    | .softKeyword => source.expect position
        (fun token => token.kind = .name && beginsSoftKeyword token.chars) fun _ => []
    | .rule rule => readRule source fuel rule position
    | .mistaken rule => do
      if (← get).findsMistakes then readRule source fuel rule position else return none
    | .all parts => readAll source fuel parts [] position
    | .first alternatives => readFirst source fuel alternatives position
    | .optional pattern => do
      match ← read source fuel pattern position with
      | some found => return some found
      | none => return some ([], position)
    | .group pattern => do read (← source.enter) fuel pattern position
    | .many pattern => do readMany (← source.enter) fuel pattern [] position
    | .oneOrMore pattern => do
      let source ← source.enter
      match ← read source fuel pattern position with
      | some (trees, position) => readMany source fuel pattern trees position
      | none => return none
    | .followedBy pattern => do
      return (← read source fuel pattern position).map fun _ => ([], position)
    | .notFollowedBy pattern => do
      match ← read source fuel pattern position with
      | some _ => return none
      | none => return some ([], position)
    | .decided guard rest otherwise => do
      match ← read source fuel guard position with
      | some (trees, position) => readAll source fuel [rest] trees position
      | none => read source fuel otherwise position
    | .growing start steps => do
      let source ← source.enter
      match ← read source fuel start position with
      | some ([tree], position) => readSteps source fuel steps tree position
      | found => return found
    | .build form pattern => do
      match ← read source fuel pattern position with
      | some (trees, position) =>
        if form = .text then source.checkText trees
        return some ([.node form trees], position)
      | none => return none
    | .complain complaint pattern => do
      match ← read source fuel pattern position with
      | some (trees, position) =>
        match complaint.message? trees (source.tokens[position - 1]?) with
        | some message => source.raise message
        | none => return none
      | none => return none
    | .quiet pattern => do
      let { findsMistakes, .. } ← get
      modify ({ · with findsMistakes := false })
      let found ← read source fuel pattern position
      modify ({ · with findsMistakes })
      return found

def readRule (source : Source) : Nat → Rule → Nat → Reader Match
  | 0, _, _ => return none
  | fuel + 1, rule, position => do
    let source ← source.enter
    if !rule.isRemembered then read source fuel (grammar rule) position
    else
      match (← get).remembered[(rule, position)]? with
      | some found => return found
      | none =>
        let found ← read source fuel (grammar rule) position
        modify fun progress =>
          { progress with remembered := progress.remembered.insert (rule, position) found }
        return found

def readAll (source : Source) : Nat → List Pattern → List Tree → Nat → Reader Match
  | 0, _, _, _ => return none
  | _, [], trees, position => return some (trees, position)
  | fuel + 1, pattern :: patterns, trees, position => do
    match ← read source fuel pattern position with
    | some (more, position) => readAll source fuel patterns (trees ++ more) position
    | none => return none

def readFirst (source : Source) : Nat → List Pattern → Nat → Reader Match
  | 0, _, _ => return none
  | _, [], _ => return none
  | fuel + 1, pattern :: patterns, position => do
    match ← read source fuel pattern position with
    | some found => return some found
    | none => readFirst source fuel patterns position

def readMany (source : Source) : Nat → Pattern → List Tree → Nat → Reader Match
  | 0, _, _, _ => return none
  | fuel + 1, pattern, trees, position => do
    match ← read source fuel pattern position with
    | some (more, next) => readMany source fuel pattern (trees ++ more) next
    | none => return some (trees, position)

/-- The first step that fits takes the tree so far as its first part. -/
def readSteps (source : Source) : Nat → List (Form × Pattern) → Tree → Nat → Reader Match
  | 0, _, _, _ => return none
  | fuel + 1, steps, tree, position => do
    match ← readStep source fuel steps tree position with
    | some (tree, next) => readSteps source fuel steps tree next
    | none => return some ([tree], position)

def readStep (source : Source) : Nat → List (Form × Pattern) → Tree → Nat →
    Reader (Option (Tree × Nat))
  | 0, _, _, _ => return none
  | _, [], _, _ => return none
  | fuel + 1, (form, pattern) :: steps, tree, position => do
    match ← read source fuel pattern position with
    | some (more, next) => return some (.node form (tree :: more), next)
    | none => readStep source fuel steps tree position

end

/-- No pattern nests deeper than this without taking a token. -/
def fuelPerToken : Nat := 400

namespace Source

def run (source : Source) (rule : Rule) (progress : Progress) :
    Except Stop Match × Progress :=
  let fuel := fuelPerToken * (source.tokens.size + 2)
  (read source fuel (.rule rule) 0).run.run progress

/-- The line of the last token that was looked at. -/
def line (source : Source) (progress : Progress) : Nat :=
  (source.tokens[progress.seen - 1]?.map (·.line)).getD 1

/-- A bracket that is never closed, if it stands above the line where reading stopped. -/
def neverClosed? (source : Source) (progress : Progress) : Option String :=
  match source.scanned.fault, source.scanned.brackets with
  | some _, bracket :: _ =>
    if bracket.line < source.line progress then
      some (source.label (ScanFault.neverClosed bracket.opening).message)
    else none
  | _, _ => none

/-- What is wrong with a later token goes before what is wrong with the expression. -/
def afterScan (source : Source) (progress : Progress) (message : String) : String :=
  match source.scanned.fault with
  | some fault =>
    if fault.isUrgent then fault.message
    else (source.neverClosed? progress).getD message
  | none => message

def stopFault (source : Source) (progress : Progress) : Stop → ReadFault
  | .scan fault => .mistake (if fault.isUrgent then fault.message else source.label fault.message)
  | .fault (.mistake message) =>
    if (source.tokens[progress.seen - 1]?).any (·.meetsEnd) then .mistake message
    else .mistake (source.afterScan progress message)
  | .fault (.limit limit) => .limit limit

/-- What is said of an expression in which no mistake was found: the last token that was looked at
before mistakes were looked for decides. -/
def unexplained (source : Source) (seen : Nat) (progress : Progress) : String :=
  match (source.tokens[seen - 1]?).map Token.kind with
  | some .indent => source.label "unexpected indent"
  | some .dedent => source.label "unexpected unindent"
  | _ => source.afterScan progress (source.label "invalid syntax")

/-- The tree of an expression, or what is wrong with it. -/
def readTree (source : Source) (rule : Rule) : Except ReadFault Tree :=
  match source.run rule {} with
  | (.ok (some (tree :: _, _)), _) => .ok tree
  | (.ok _, progress) =>
    let again : Progress := { seen := progress.seen, findsMistakes := true }
    match source.run rule again with
    | (.error stop, later) => .error (source.stopFault later stop)
    | (.ok _, later) => .error (.mistake (source.unexplained progress.seen later))
  | (.error stop, progress) => .error (source.stopFault progress stop)

end Source

/-- What is wrong with an expression that is embedded in a text. Each expression is shorter than the
text that it stands in. -/
def embeddedFault? : Nat → List Char → Option ReadFault
  | 0, _ => none
  | fuel + 1, cs =>
    let source := Source.ofScanned (Literal.scan (cs ++ ['\n'])) (embeddedFault? fuel) true
    match source.readTree .starExpressions with
    | .ok _ => none
    | .error fault => some fault

/-- A character that no expression can hold anywhere. -/
def nullMessage : String := "source code string cannot contain null bytes"

/-- The tree of an expression that takes up a whole text. -/
def readExpression (cs : List Char) : Except ReadFault Tree :=
  if cs.contains '\x00' then .error (.mistake nullMessage)
  else
    (Source.ofScanned (Literal.scan cs) (embeddedFault? cs.length) false).readTree .whole

end EventFilter.Literal
