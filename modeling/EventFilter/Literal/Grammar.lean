import EventFilter.Literal.Tree

/-! The grammar of expressions. A rule is a pattern of tokens in which the first alternative that
fits is taken. Where an expression is wrong, the grammar is gone through once more, now with
patterns for mistakes: the first of them that fits is what is wrong. -/
namespace EventFilter.Literal

/-- What a mistake is called, perhaps depending on what is there. -/
inductive Complaint where
  | plain (message : String)
  | missingComma
  | missingParentheses
  | assignmentTarget
  | equality
  | constant
  | loopTarget
  | bareGenerator
  | positional
  deriving DecidableEq, Repr

inductive Rule where
  | whole
  | expressions
  | expression
  | plainExpression
  | starExpressions
  | starExpression
  | starNamedExpressions
  | starNamedExpression
  | assignment
  | namedExpression
  | yielded
  | disjunction
  | conjunction
  | inversion
  | comparison
  | comparisonStep
  | bitOr
  | bitXor
  | bitAnd
  | shift
  | sum
  | term
  | factor
  | power
  | awaited
  | primary
  | atom
  | texts
  | tuple
  | group
  | generator
  | set
  | dict
  | dictMembers
  | dictMember
  | pair
  | setComprehension
  | dictComprehension
  | clauses
  | clause
  | arguments
  | argumentList
  | argument
  | keywordArguments
  | keywordOrStarred
  | keywordOrDouble
  | starredArgument
  | function
  | parameters
  | slashPlain
  | slashDefault
  | starParameters
  | doubleStarParameter
  | plainParameter
  | defaultParameter
  | maybeDefaultParameter
  | defaultValue
  | targets
  | target
  | starAtomTarget
  | starAtom
  | tupleTargets
  | targetPrimary
  | mistakenExpression
  | mistakenLegacy
  | mistakenNamed
  | mistakenGroup
  | mistakenComprehension
  | mistakenDictComprehension
  | mistakenMembers
  | mistakenPair
  | mistakenTarget
  | mistakenArguments
  | mistakenKeyword
  | mistakenParameters
  | mistakenParameterOrder
  | mistakenStarParameters
  | mistakenDoubleStar
  | mistakenDefault
  deriving DecidableEq, Repr, Hashable

/-- What a rule gives at a place is kept for the next time, also when mistakes were not looked for
the first time. -/
def Rule.isRemembered : Rule → Bool
  | expression | starExpression | disjunction | conjunction | inversion | bitOr | bitXor | bitAnd
  | shift | sum | term | factor | awaited | primary | texts | arguments | target | starAtomTarget
  | targetPrimary | mistakenNamed => true
  | _ => false

inductive Pattern where
  /-- A symbol or keyword, which leaves nothing in the tree. -/
  | symbol (text : String)
  /-- The same, as a leaf. -/
  | kept (text : String)
  | token (kind : TokenKind)
  | softKeyword
  | rule (rule : Rule)
  | all (parts : List Pattern)
  | first (alternatives : List Pattern)
  | optional (pattern : Pattern)
  /-- A pattern that is read one level further in, like a rule without a name. -/
  | group (pattern : Pattern)
  | many (pattern : Pattern)
  | oneOrMore (pattern : Pattern)
  | followedBy (pattern : Pattern)
  | notFollowedBy (pattern : Pattern)
  /-- Once the guard fits there is no way back. -/
  | decided (guard rest otherwise : Pattern)
  /-- A tree that grows to the right as long as one of the steps fits. -/
  | growing (start : Pattern) (steps : List (Form × Pattern))
  | build (form : Form) (pattern : Pattern)
  /-- Only where mistakes are looked for. -/
  | mistaken (rule : Rule)
  | complain (complaint : Complaint) (pattern : Pattern)
  /-- Mistakes are not looked for within. -/
  | quiet (pattern : Pattern)

namespace Pattern

instance : Coe String Pattern := ⟨symbol⟩

def name : Pattern := token .name

/-- One of several patterns within another. -/
def either (alternatives : List Pattern) : Pattern := group (first alternatives)

/-- One or more, with a symbol between each two. -/
def separated (separator : String) (pattern : Pattern) : Pattern :=
  group (all [pattern, many (all [separator, pattern])])

def mistake (message : String) (parts : List Pattern) : Pattern :=
  complain (.plain message) (all parts)

/-- One of two operators between two operands, or just one operand. -/
def chain (form : Form) (operand : Rule) (operators : List String) : Pattern :=
  growing (rule operand) (operators.map fun (operator : String) => (form, all [operator, rule operand]))

end Pattern

open Pattern

def equalityMeant : String := "invalid syntax. Maybe you meant '==' or ':=' instead of '='?"

def bareGenerator : String := "Generator expression must be parenthesized"

def targetNotBracketed : String := "did you forget parentheses around the comprehension target?"

def starredValue : String := "cannot use a starred expression in a dictionary value"

def valueMissing : String := "expression expected after dictionary key and ':'"

def afterDoubleStar : String := "arguments cannot follow var-keyword argument"

/-- An expression that no assignment within brackets goes on. -/
def unassigned : Pattern := all [rule .expression, notFollowedBy ":="]

def parameter : Pattern := group name

/-- A parameter ends at a comma or before the colon. -/
def endParameter : Pattern := first [",", followedBy ":"]

def anySlashed : Pattern := either [rule .slashPlain, rule .slashDefault]

/-- What an expression is if it is right. -/
def rightExpressions : List Pattern := [
  build .conditional (all [rule .disjunction, "if", rule .disjunction, "else", rule .expression]),
  rule .disjunction,
  rule .function]

def grammar : Rule → Pattern
  | .whole => all [rule .expressions, many (token .newline), token .finish]
  | .expressions => first [
      build .tuple (all [rule .expression, oneOrMore (group (all [",", rule .expression])),
        optional ","]),
      build .tuple (all [rule .expression, ","]),
      rule .expression]
  | .expression => first
      (mistaken .mistakenExpression :: mistaken .mistakenLegacy :: rightExpressions)
  | .plainExpression => first rightExpressions
  | .starExpressions => first [
      build .tuple (all [rule .starExpression,
        oneOrMore (group (all [",", rule .starExpression])), optional ","]),
      build .tuple (all [rule .starExpression, ","]),
      rule .starExpression]
  | .starExpression => first [build .starred (all ["*", rule .bitOr]), rule .expression]
  | .starNamedExpressions => all [separated "," (rule .starNamedExpression), optional ","]
  | .starNamedExpression => first [build .starred (all ["*", rule .bitOr]),
      rule .namedExpression]
  | .assignment => build .assignment (all [name, ":=", rule .expression])
  | .namedExpression => first [rule .assignment, mistaken .mistakenNamed, unassigned]
  | .yielded => first [
      build .yielded (all ["yield", "from", rule .expression]),
      build .yielded (all ["yield", optional (rule .starExpressions)])]
  | .disjunction => first [
      build .boolean (all [rule .conjunction, oneOrMore (group (all ["or", rule .conjunction]))]),
      rule .conjunction]
  | .conjunction => first [
      build .boolean (all [rule .inversion, oneOrMore (group (all ["and", rule .inversion]))]),
      rule .inversion]
  | .inversion => first [build .unary (all ["not", rule .inversion]), rule .comparison]
  | .comparison => first [
      build .comparison (all [rule .bitOr, oneOrMore (rule .comparisonStep)]),
      rule .bitOr]
  | .comparisonStep =>
    let compared (operator : List Pattern) := group (all (operator ++ [rule .bitOr]))
    first [
      compared [kept "=="], compared [group (kept "!=")], compared [kept "<="], compared [kept "<"],
      compared [kept ">="], compared [kept ">"], compared [kept "not", "in"], compared [kept "in"],
      compared [kept "is", "not"], compared [kept "is"]]
  | .bitOr => chain .binary .bitXor ["|"]
  | .bitXor => chain .binary .bitAnd ["^"]
  | .bitAnd => chain .binary .shift ["&"]
  | .shift => chain .binary .sum ["<<", ">>"]
  | .sum => chain .additive .term ["+", "-"]
  | .term => chain .binary .factor ["*", "/", "//", "%", "@"]
  | .factor => first [
      build .signed (all ["+", rule .factor]),
      build .signed (all ["-", rule .factor]),
      build .unary (all ["~", rule .factor]),
      rule .power]
  | .power => first [build .binary (all [rule .awaited, "**", rule .factor]), rule .awaited]
  | .awaited => first [build .awaited (all ["await", rule .primary]), rule .primary]
  | .primary => growing (rule .atom) [
      (.attribute, all [".", name]),
      (.call, rule .generator),
      (.call, all ["(", optional (rule .arguments), ")"])]
  | .atom => first [name, kept "True", kept "False", kept "None",
      all [followedBy (token .text), rule .texts],
      token .number,
      all [followedBy "(", either [rule .tuple, rule .group, rule .generator]],
      all [followedBy "\x7b", either [rule .dict, rule .set, rule .dictComprehension,
        rule .setComprehension]],
      kept "..."]
  | .texts => build .text (oneOrMore (token .text))
  | .tuple => build .tuple (all ["(",
      optional (group (all [rule .starNamedExpression, ",",
        optional (rule .starNamedExpressions)])), ")"])
  | .group => first [
      all ["(", either [rule .yielded, rule .namedExpression], ")"],
      mistaken .mistakenGroup]
  | .generator => first [
      build .generator (all ["(", either [rule .assignment, unassigned], rule .clauses,
        ")"]),
      mistaken .mistakenComprehension]
  | .set => build .set (all ["\x7b", rule .starNamedExpressions, "\x7d"])
  | .dict => first [
      build .dict (all ["\x7b", optional (rule .dictMembers), "\x7d"]),
      all ["\x7b", rule .mistakenMembers, "\x7d"]]
  | .dictMembers => all [separated "," (rule .dictMember), optional ","]
  | .dictMember => first [build .unpacked (all ["**", rule .bitOr]), rule .pair]
  | .pair => build .pair (all [rule .expression, ":", rule .expression])
  | .setComprehension => first [
      build .setComprehension (all ["\x7b", rule .namedExpression, rule .clauses, "\x7d"]),
      mistaken .mistakenComprehension]
  | .dictComprehension => first [
      build .dictComprehension (all ["\x7b", rule .pair, rule .clauses, "\x7d"]),
      mistaken .mistakenDictComprehension]
  | .clauses => oneOrMore (rule .clause)
  | .clause =>
    let condition := many (group (all ["if", rule .disjunction]))
    let source := all [rule .disjunction, condition]
    build .clause (decided (all ["async", "for", rule .targets, "in"]) source
      (decided (all ["for", rule .targets, "in"]) source (mistaken .mistakenTarget)))
  | .arguments => first [
      all [rule .argumentList, optional ",", followedBy ")"],
      mistaken .mistakenArguments]
  | .argumentList => build .arguments (first [
      all [separated "," (rule .argument), optional (group (all [",", rule .keywordArguments]))],
      rule .keywordArguments])
  | .argument => first [
      rule .starredArgument,
      all [either [rule .assignment, unassigned], notFollowedBy "="]]
  | .keywordArguments => first [
      all [separated "," (rule .keywordOrStarred), ",", separated "," (rule .keywordOrDouble)],
      separated "," (rule .keywordOrStarred),
      separated "," (rule .keywordOrDouble)]
  | .keywordOrStarred => first [
      mistaken .mistakenKeyword,
      build .keyword (all [name, "=", rule .expression]),
      rule .starredArgument]
  | .keywordOrDouble => first [
      mistaken .mistakenKeyword,
      build .keyword (all [name, "=", rule .expression]),
      build .keywords (all ["**", rule .expression])]
  | .starredArgument => first [
      build .starred (all ["*", rule .expression]),
      mistake "Invalid star expression" ["*"]]
  | .function => build .function (all ["lambda", optional (rule .parameters), ":",
      rule .expression])
  | .parameters =>
    let rest := optional (rule .starParameters)
    first [
      mistaken .mistakenParameters,
      either [
        all [rule .slashPlain, many (rule .plainParameter), many (rule .defaultParameter), rest],
        all [rule .slashDefault, many (rule .defaultParameter), rest],
        all [oneOrMore (rule .plainParameter), many (rule .defaultParameter), rest],
        all [oneOrMore (rule .defaultParameter), rest],
        rule .starParameters]]
  | .slashPlain =>
    let parameters := oneOrMore (rule .plainParameter)
    first [all [parameters, "/", ","], all [parameters, "/", followedBy ":"]]
  | .slashDefault =>
    let parameters := all [many (rule .plainParameter), oneOrMore (rule .defaultParameter)]
    first [all [parameters, "/", ","], all [parameters, "/", followedBy ":"]]
  | .starParameters => first [
      mistaken .mistakenStarParameters,
      all ["*", rule .plainParameter, many (rule .maybeDefaultParameter),
        optional (rule .doubleStarParameter)],
      all ["*", ",", oneOrMore (rule .maybeDefaultParameter),
        optional (rule .doubleStarParameter)],
      rule .doubleStarParameter]
  | .doubleStarParameter => first [
      mistaken .mistakenDoubleStar,
      all ["**", rule .plainParameter]]
  | .plainParameter => all [parameter, endParameter]
  | .defaultParameter => all [parameter, rule .defaultValue, endParameter]
  | .maybeDefaultParameter => all [parameter, optional (rule .defaultValue), endParameter]
  | .defaultValue => first [all ["=", rule .expression], mistaken .mistakenDefault]
  | .targets => first [
      all [rule .target, notFollowedBy ","],
      all [rule .target, many (group (all [",", rule .target])), optional ","]]
  | .target => first [
      all ["*", group (all [notFollowedBy "*", rule .target])],
      rule .starAtomTarget]
  | .starAtomTarget => first [
      all [rule .targetPrimary, ".", name, notFollowedBy (either ["(", "[", "."])],
      rule .starAtom]
  | .starAtom => first [name,
      all ["(", rule .starAtomTarget, ")"],
      all ["(", optional (rule .tupleTargets), ")"]]
  | .tupleTargets => first [
      all [rule .target, oneOrMore (group (all [",", rule .target])), optional ","],
      all [rule .target, ","]]
  | .targetPrimary =>
    let goesOn := followedBy (either ["(", "[", "."])
    growing (all [rule .atom, goesOn]) [
      (.attribute, all [".", name, goesOn]),
      (.call, all [rule .generator, goesOn]),
      (.call, all ["(", optional (rule .arguments), ")", goesOn])]
  | .mistakenExpression => first [
      all [notFollowedBy (either [all [name, token .text], softKeyword]),
        complain .missingComma (all [rule .disjunction, quiet (rule .plainExpression)])],
      mistake "expected 'else' after 'if' expression"
        [rule .disjunction, "if", rule .disjunction, notFollowedBy (either ["else", ":"])]]
  | .mistakenLegacy =>
    complain .missingParentheses (all [name, notFollowedBy "(", rule .starExpressions])
  | .mistakenNamed =>
    let brackets := either [rule .tuple, rule .generator, "True", "None", "False"]
    first [
      complain .assignmentTarget (all [rule .expression, ":=", rule .expression]),
      mistake equalityMeant [name, "=", rule .bitOr, notFollowedBy (either ["=", ":="])],
      all [notFollowedBy brackets, complain .equality (all [rule .bitOr, "=", rule .bitOr,
        notFollowedBy (either ["=", ":="])])]]
  | .mistakenGroup => first [
      mistake "cannot use starred expression here" ["(", rule .starredArgument, ")"],
      mistake "cannot use double starred expression here" ["(", "**", rule .expression, ")"]]
  | .mistakenComprehension => first [
      mistake "iterable unpacking cannot be used in comprehension"
        [either ["[", "(", "\x7b"], rule .starredArgument, rule .clauses],
      mistake targetNotBracketed [either ["[", "\x7b"], rule .starNamedExpression, ",",
        rule .starNamedExpressions, rule .clauses],
      mistake targetNotBracketed [either ["[", "\x7b"], rule .starNamedExpression, ",",
        rule .clauses]]
  | .mistakenDictComprehension =>
    mistake "dict unpacking cannot be used in dict comprehension"
      ["\x7b", "**", rule .bitOr, rule .clauses, "\x7d"]
  | .mistakenMembers => first [
      all [separated "," (rule .dictMember), ",", rule .mistakenPair],
      mistake starredValue [rule .expression, ":", "*", rule .bitOr],
      mistake valueMissing [rule .expression, ":", followedBy (either ["\x7d", ","])]]
  | .mistakenPair => first [
      mistake "':' expected after dictionary key" [rule .expression, notFollowedBy ":"],
      mistake starredValue [rule .expression, ":", "*", rule .bitOr],
      mistake valueMissing [rule .expression, ":", followedBy (either ["\x7d", ","])]]
  | .mistakenTarget =>
    complain .loopTarget (all [optional "async", "for", rule .starExpressions])
  | .mistakenArguments => first [
      mistake "iterable argument unpacking follows keyword argument unpacking" [
        either [
          group (all [separated "," (rule .argument), ",", rule .keywordArguments]),
          rule .keywordArguments],
        ",", separated "," (group (all [rule .starredArgument, notFollowedBy "="]))],
      mistake bareGenerator [rule .expression, rule .clauses, ",",
        optional (either [rule .argumentList, all [rule .expression, rule .clauses]])],
      mistake equalityMeant [name, "=", rule .expression, rule .clauses],
      complain .bareGenerator (all [rule .argumentList, rule .clauses]),
      mistake bareGenerator [rule .argumentList, ",", rule .expression, rule .clauses],
      complain .positional (all [rule .argumentList, ",", rule .argumentList])]
  | .mistakenKeyword => first [
      complain .constant (all [either [kept "True", kept "False", kept "None"], "="]),
      mistake equalityMeant [name, "=", rule .expression, rule .clauses],
      mistake "expression cannot contain assignment, perhaps you meant \"==\"?"
        [notFollowedBy (group (all [name, "="])), rule .expression, "="]]
  | .mistakenParameters =>
    let anyDefault := many (rule .maybeDefaultParameter)
    first [
      mistake "non-default argument follows default argument"
        [many (rule .plainParameter), rule .mistakenParameterOrder, rule .plainParameter],
      mistake "Lambda expression parameters cannot be parenthesized"
        [many (rule .plainParameter), "(", separated "," parameter, optional ",", ")"],
      mistake "at least one argument must precede /" ["/", ","],
      mistake "/ may appear only once" [anySlashed, anyDefault, "/"],
      mistake "/ must be ahead of *" [optional anySlashed, anyDefault, "*",
        either [",", rule .plainParameter], anyDefault, "/"],
      mistake "expected comma between / and *"
        [oneOrMore (rule .maybeDefaultParameter), "/", "*"]]
  | .mistakenParameterOrder => first [rule .slashDefault, oneOrMore (rule .defaultParameter)]
  | .mistakenStarParameters => first [
      mistake "named arguments must follow bare *"
        ["*", either [":", all [",", either [":", "**"]]]],
      mistake "var-positional argument cannot have default value" ["*", name, "="],
      mistake "* argument may appear only once" ["*", either [rule .plainParameter, ","],
        many (rule .maybeDefaultParameter), "*", either [rule .plainParameter, ","]]]
  | .mistakenDoubleStar => first [
      mistake "var-keyword argument cannot have default value" ["**", name, "="],
      mistake afterDoubleStar ["**", name, ",", name],
      mistake afterDoubleStar ["**", name, ",", either ["*", "**", "/"]]]
  | .mistakenDefault =>
    mistake "expected default value expression" ["=", followedBy (either [")", ","])]

end EventFilter.Literal
