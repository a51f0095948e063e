import EventFilter.Literal.Escape
import EventFilter.Literal.Scanner

/-! Texts as they are written: marks, quotes, and what stands between. A template holds expressions
between braces, perhaps with a conversion and a format, which may hold expressions again. -/
namespace EventFilter.Literal

inductive TextFault where
  | mixed
  | beyondAscii
  | byteEscape (position : Nat)
  | escape (fault : EscapeFault)
  | braceExpected
  | lonelyBrace
  /-- There is none, and this is what follows it. -/
  | emptyExpression (mark : Char)
  | backslash
  | comment
  | unterminated
  | unmatched (bracket : Char)
  | mismatched (closing opening : Char)
  | tooManyBrackets
  | tooDeep
  | conversion
  /-- What is wrong within an expression. -/
  | embedded (fault : ReadFault)
  deriving DecidableEq, Repr

def TextFault.message : TextFault → String
  | mixed => "cannot mix bytes and nonbytes literals"
  | beyondAscii => "bytes can only contain ASCII literal characters"
  | byteEscape position =>
    "(value error) invalid \\x escape at position " ++ toString position
  | escape fault => "(unicode error) 'unicodeescape' codec can't decode bytes in position "
    ++ toString fault.first ++ "-" ++ toString fault.last ++ ": " ++ fault.reason.message
  | braceExpected => "f-string: expecting '\x7d'"
  | lonelyBrace => "f-string: single '\x7d' is not allowed"
  | emptyExpression '\x7d' => "f-string: empty expression not allowed"
  | emptyExpression mark =>
    "f-string: expression required before '" ++ String.ofList [mark] ++ "'"
  | backslash => "f-string expression part cannot include a backslash"
  | comment => "f-string expression part cannot include '#'"
  | unterminated => "f-string: unterminated string"
  | unmatched bracket => "f-string: unmatched '" ++ String.ofList [bracket] ++ "'"
  | mismatched closing opening => "f-string: closing parenthesis '" ++ String.ofList [closing]
    ++ "' does not match opening parenthesis '" ++ String.ofList [opening] ++ "'"
  | tooManyBrackets => "f-string: too many nested parenthesis"
  | tooDeep => "f-string: expressions nested too deeply"
  | conversion => "f-string: invalid conversion character: expected 's', 'r', or 'a'"
  | embedded fault => fault.message

/-- A text taken apart. -/
structure Quotation where
  marks : TextMarks
  content : List Char
  deriving DecidableEq, Repr

/-- Three quotes on either side, or one. -/
def unquote : List Char → List Char
  | quote :: a :: b :: cs =>
    if a = quote && b = quote then cs.take (cs.length - 3) else (a :: b :: cs).dropLast
  | _ :: cs => cs.dropLast
  | [] => []

def Quotation.ofToken (token : Token) : Quotation :=
  match textStart? {} token.chars with
  | some (marks, quoted) => ⟨marks, unquote quoted⟩
  | none => ⟨{}, []⟩

def checkEscapes (raw : Bool) (content : List Char) : Except TextFault Unit :=
  match if raw then none else escapeFault? content with
  | some fault => .error (.escape fault)
  | none => .ok ()

def checkBytes (raw : Bool) (content : List Char) : Except TextFault Unit :=
  if !content.all isAsciiChar then .error .beyondAscii
  else
    match if raw then none else byteFaultFrom? 0 content with
    | some position => .error (.byteEscape position)
    | none => .ok ()

/-- A text without expressions. -/
def Quotation.check (quotation : Quotation) : Except TextFault Unit :=
  let { marks, content } := quotation
  if marks.template then .ok ()
  else if marks.bytes then checkBytes marks.raw content
  else checkEscapes marks.raw content

/-- Plain text up to the next expression, its last character first, and the rest from the brace on.
At the outer level two braces stand for one, and the text goes on behind them; then `true` is told
too. -/
def literalPart (raw isOuter : Bool) : Nat → List Char → List Char →
    Except TextFault (List Char × List Char × Bool)
  | 0, taken, cs => .ok (taken, cs, false)
  | _, taken, [] => .ok (taken, [], false)
  | fuel + 1, taken, c :: cs =>
    match if raw || c ≠ '\\' then none else some cs with
    | some ('N' :: '\x7b' :: cs) =>
      let (name, rest) := cs.span (· != '\x7d')
      let taken := name.reverse ++ '\x7b' :: 'N' :: c :: taken
      match rest with
      | brace :: rest => literalPart raw isOuter fuel (brace :: taken) rest
      | [] => .ok (taken, [], false)
    | some ('N' :: next :: cs) => literalPart raw isOuter fuel (next :: 'N' :: c :: taken) cs
    | some (next :: cs) =>
      if next = '\x7b' || next = '\x7d' then brace (c :: taken) next cs
      else literalPart raw isOuter fuel (next :: c :: taken) cs
    | _ =>
      if c = '\x7b' || c = '\x7d' then brace taken c cs
      else literalPart raw isOuter fuel (c :: taken) cs
where
  brace (taken : List Char) (c : Char) (cs : List Char) :
      Except TextFault (List Char × List Char × Bool) :=
    if isOuter && cs.head? = some c then .ok (c :: taken, cs.tail, true)
    else if isOuter && c = '\x7d' then .error .lonelyBrace
    else .ok (taken, c :: cs, false)

/-- A quote within an expression, single or of three. -/
structure OpenQuote where
  quote : Char
  triple : Bool

/-- Two characters that belong together although the first could end an expression. -/
def isComparison (c : Char) (next : Option Char) : Bool :=
  next = some '=' && ['!', '=', '<', '>'].contains c

/-- An expression up to what ends it, its last character first. -/
def expressionPart (quote : Option OpenQuote) (brackets taken : List Char) :
    List Char → Except TextFault (List Char × List Char)
  | [] =>
    if quote.isSome then .error .unterminated
    else
      match brackets with
      | bracket :: _ => .error (.unmatched bracket)
      | [] => .error .braceExpected
  | c :: cs =>
    if c = '\\' then .error .backslash
    else
      match quote with
      | some ⟨q, triple⟩ =>
        if c ≠ q then expressionPart quote brackets (c :: taken) cs
        else if !triple then expressionPart none brackets (c :: taken) cs
        else
          match cs with
          | a :: b :: rest =>
            if a = q && b = q then expressionPart none brackets (b :: a :: c :: taken) rest
            else expressionPart quote brackets (c :: taken) (a :: b :: rest)
          | cs => expressionPart quote brackets (c :: taken) cs
      | none =>
        if isQuote c then
          match cs with
          | a :: b :: rest =>
            if a = c && b = c then
              expressionPart (some ⟨c, true⟩) brackets (b :: a :: c :: taken) rest
            else expressionPart (some ⟨c, false⟩) brackets (c :: taken) (a :: b :: rest)
          | cs => expressionPart (some ⟨c, false⟩) brackets (c :: taken) cs
        else if ['(', '[', '\x7b'].contains c then
          if maxBrackets ≤ brackets.length then .error .tooManyBrackets
          else expressionPart none (c :: brackets) (c :: taken) cs
        else if c = '#' then .error .comment
        else if brackets.isEmpty && isComparison c cs.head? then
          match cs with
          | next :: cs => expressionPart none brackets (next :: c :: taken) cs
          | [] => .error .braceExpected
        else if brackets.isEmpty && ['!', ':', '\x7d', '='].contains c then .ok (taken, c :: cs)
        else if [')', ']', '\x7d'].contains c then
          match brackets with
          | [] => .error (.unmatched c)
          | opening :: brackets =>
            if closingOf opening ≠ c then .error (.mismatched c opening)
            else expressionPart none brackets (c :: taken) cs
        else expressionPart none brackets (c :: taken) cs

def isBlankExpression (cs : List Char) : Bool :=
  cs.all fun c => c = ' ' || c = '\t' || c = '\n' || c = '\x0c'

/-- The text of an expression may be shown too. -/
def skipEquals : List Char → List Char
  | '=' :: cs => cs.dropWhile fun c => c = ' ' || (0x9 ≤ c.toNat && c.toNat ≤ 0xd)
  | cs => cs

def checkConversion : List Char → Except TextFault (List Char)
  | '!' :: c :: cs => if ['s', 'r', 'a'].contains c then .ok cs else .error .conversion
  | ['!'] => .error .braceExpected
  | cs => .ok cs

/-- Expressions nest twice at most. -/
def maxNesting : Nat := 2

/-- A template from here on, at a level of nesting; the rest at the brace that ends a format. -/
def checkTemplate (embedded? : List Char → Option ReadFault) (raw : Bool) :
    Nat → Nat → List Char → Except TextFault (List Char)
  | 0, _, _ => .error .tooDeep
  | fuel + 1, level, cs => do
    let (literal, rest, isDoubled) ← literalPart raw (level = 0) cs.length [] cs
    checkEscapes raw literal.reverse
    if isDoubled then checkTemplate embedded? raw fuel level rest
    else
      match rest with
      | '\x7b' :: rest =>
        if maxNesting ≤ level then throw .tooDeep
        let (reversed, rest) ← expressionPart none [] [] rest
        let expression := reversed.reverse
        if isBlankExpression expression then throw (.emptyExpression (rest.headD '\x7d'))
        if let some fault := embedded? ('(' :: expression ++ [')']) then throw (.embedded fault)
        let rest ← checkConversion (skipEquals rest)
        let rest ← match rest with
          | [':'] => throw .braceExpected
          | ':' :: rest => checkTemplate embedded? raw fuel (level + 1) rest
          | rest => pure rest
        match rest with
        | '\x7d' :: rest => checkTemplate embedded? raw fuel level rest
        | _ => throw .braceExpected
      | '\x7d' :: rest => return '\x7d' :: rest
      | rest => if level = 0 then return rest else throw .braceExpected

/-- Texts that stand side by side are one. They are looked at in turn: each by itself, then whether
it goes with those before it, and then the expressions in it. -/
def checkTexts (embedded? : List Char → Option ReadFault) (first : Option Quotation) :
    List Quotation → Except TextFault Unit
  | [] => .ok ()
  | quotation :: quotations => do
    quotation.check
    if first.any fun first => first.marks.bytes != quotation.marks.bytes then throw .mixed
    if quotation.marks.template then
      let fuel := 2 * quotation.content.length + 2
      let _ ← checkTemplate embedded? quotation.marks.raw fuel 0 quotation.content
    checkTexts embedded? (some (first.getD quotation)) quotations

end EventFilter.Literal
