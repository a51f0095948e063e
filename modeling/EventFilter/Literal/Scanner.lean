import EventFilter.Literal.Token

/-! Dividing a text into tokens. Lines end a token, but inside brackets they count for nothing;
outside, the blanks in front of a line are tokens of their own if they change. A text is divided as
far as it goes, and what stopped it comes behind the tokens. -/
namespace EventFilter.Literal

/-- All three ways to end a line become one. -/
def unifyLines : List Char → List Char
  | '\r' :: '\n' :: cs => '\n' :: unifyLines cs
  | '\r' :: cs => '\n' :: unifyLines cs
  | c :: cs => c :: unifyLines cs
  | [] => []

def isLetter (c : Char) : Bool := ('a' ≤ c && c ≤ 'z') || ('A' ≤ c && c ≤ 'Z')

def isAscii (c : Char) : Bool := c.toNat < 0x80

def opensName (c : Char) : Bool := isLetter c || c = '_' || !isAscii c

def staysInName (c : Char) : Bool := opensName c || Text.isAsciiDigit c

/-- The first character that a name cannot hold in its place. -/
def misplaced? : List Char → Option Char
  | [] => none
  | c :: cs => if Text.beginsName c then cs.find? (!Text.continuesName ·) else some c

/-! Numbers -/

/-- Words may follow a number without a blank if no name can be meant. -/
def mayFollow (rest : List Char) : Bool :=
  ["and", "else", "for", "not", "or"].any (fun word =>
      word.toList.isPrefixOf rest && !(rest[word.length]?).any staysInName)
    || ["if", "in", "is"].any fun word => word.toList.isPrefixOf rest

/-- A number ends where no name goes on. -/
def endNumber (kind : Numeric) (rest : List Char) : Except ScanFault (List Char) :=
  if rest.head?.any (fun c => isAscii c && staysInName c) && !mayFollow rest then
    .error (.numeric kind)
  else .ok rest

/-- The rest of the digits, with single underscores between them. -/
def moreDigits : List Char → Except ScanFault (List Char)
  | ['_'] => .error (.numeric .decimal)
  | '_' :: c :: cs =>
    if Text.isAsciiDigit c then moreDigits cs else .error (.numeric .decimal)
  | c :: cs => if Text.isAsciiDigit c then moreDigits cs else .ok (c :: cs)
  | [] => .ok []

def isDigitOf : Numeric → Char → Bool
  | .hexadecimal, c => (Text.hexValue? c).isSome
  | .octal, c => '0' ≤ c && c < '8'
  | .binary, c => c = '0' || c = '1'
  | _, c => Text.isAsciiDigit c

/-- What is wrong with a character among the digits. -/
def digitFault (kind : Numeric) (c : Option Char) : ScanFault :=
  match c with
  | some c => if Text.isAsciiDigit c then .digit c kind else .numeric kind
  | none => .numeric kind

/-- The digits of another base; one is due in front and after every underscore. -/
def baseDigits (kind : Numeric) (isDue : Bool) : List Char → Except ScanFault (List Char)
  | [] => if isDue then .error (.numeric kind) else .ok []
  | c :: cs =>
    if isDigitOf kind c then baseDigits kind false cs
    else if isDue then .error (digitFault kind (some c))
    else if c = '_' then baseDigits kind true cs
    else if Text.isAsciiDigit c then .error (digitFault kind (some c))
    else .ok (c :: cs)

/-- The first digit of another base may have an underscore in front. -/
def baseNumber (kind : Numeric) (rest : List Char) : Except ScanFault (List Char) := do
  let rest := match rest with
    | '_' :: rest => rest
    | rest => rest
  endNumber kind (← baseDigits kind true rest)

def imaginaryEnd (rest : List Char) : Except ScanFault (List Char) :=
  match rest with
  | c :: cs => if c = 'j' || c = 'J' then endNumber .imaginary cs else endNumber .decimal rest
  | [] => .ok []

/-- What may follow the mantissa: an exponent and the mark of an imaginary number. Without digits
the exponent is none, and another word begins. -/
def exponentEnd (rest : List Char) : Except ScanFault (List Char) :=
  match rest with
  | c :: cs =>
    if c = 'e' || c = 'E' then
      match cs with
      | sign :: digits =>
        if sign = '+' || sign = '-' then
          if digits.head?.any Text.isAsciiDigit then do imaginaryEnd (← moreDigits digits)
          else .error (.numeric .decimal)
        else if Text.isAsciiDigit sign then do imaginaryEnd (← moreDigits cs)
        else endNumber .decimal rest
      | [] => endNumber .decimal rest
    else imaginaryEnd rest
  | [] => .ok []

def fractionEnd (rest : List Char) : Except ScanFault (List Char) := do
  if rest.head?.any Text.isAsciiDigit then exponentEnd (← moreDigits rest) else exponentEnd rest

/-- What may follow the digits of a decimal number. -/
def decimalEnd (rest : List Char) : Except ScanFault (List Char) :=
  match rest with
  | '.' :: rest => fractionEnd rest
  | rest => exponentEnd rest

/-- The zeros in front of a number, with single underscores. -/
def zeros : List Char → Except ScanFault (List Char)
  | ['_'] => .error (.numeric .decimal)
  | '_' :: c :: cs => if Text.isAsciiDigit c then zeros (c :: cs) else .error (.numeric .decimal)
  | '0' :: cs => zeros cs
  | cs => .ok cs

/-- A number with zeros in front is a fraction, has an exponent, is imaginary, or is zero. -/
def zeroNumber (rest : List Char) : Except ScanFault (List Char) := do
  let rest ← zeros rest
  let leads := rest.head?.any Text.isAsciiDigit
  let rest ← if leads then moreDigits rest else .ok rest
  let isWhole := !rest.head?.any fun c => ['.', 'e', 'E', 'j', 'J'].contains c
  if leads && isWhole then .error .leadingZeros else decimalEnd rest

def numberEnd : List Char → Except ScanFault (List Char)
  | '0' :: c :: cs =>
    if c = 'x' || c = 'X' then baseNumber .hexadecimal cs
    else if c = 'o' || c = 'O' then baseNumber .octal cs
    else if c = 'b' || c = 'B' then baseNumber .binary cs
    else zeroNumber (c :: cs)
  | '.' :: cs => fractionEnd cs
  | cs => do decimalEnd (← moreDigits cs)

/-! Texts -/

def isQuote (c : Char) : Bool := c = '"' || c = '\x27'

/-- Which letters a text has in front so far. -/
structure TextMarks where
  bytes : Bool := false
  raw : Bool := false
  plain : Bool := false
  template : Bool := false
  deriving DecidableEq, Repr

def TextMarks.add? (marks : TextMarks) (c : Char) : Option TextMarks :=
  let c := c.toLower
  if c = 'b' && !(marks.bytes || marks.plain || marks.template) then
    some { marks with bytes := true }
  else if c = 'u' && marks = {} then some { marks with plain := true }
  else if c = 'r' && !(marks.raw || marks.plain) then some { marks with raw := true }
  else if c = 'f' && !(marks.template || marks.bytes || marks.plain) then
    some { marks with template := true }
  else none

/-- The marks of a text that begins here, and what follows them from the quote on. -/
def textStart? (marks : TextMarks) : List Char → Option (TextMarks × List Char)
  | [] => none
  | c :: cs =>
    if isQuote c then some (marks, c :: cs)
    else (marks.add? c).bind fun marks => textStart? marks cs

/-- Behind the closing quote of a text on one line, and how many lines were passed; a backslash
takes the next character with it, be it the end of the line. -/
def lineTextEnd? (quote : Char) (passed : Nat) : List Char → Option (List Char × Nat) × Nat
  | [] => (none, passed)
  | '\\' :: c :: cs => lineTextEnd? quote (if c = '\n' then passed + 1 else passed) cs
  | c :: cs =>
    if c = quote then (some (cs, passed), passed)
    else if c = '\n' then (none, passed)
    else lineTextEnd? quote passed cs

/-- The same for a text that three quotes end. -/
def longTextEnd? (quote : Char) (passed : Nat) (quotes : Nat) :
    List Char → Option (List Char × Nat) × Nat
  | [] => (none, passed)
  | c :: cs =>
    if c = quote then
      if quotes = 2 then (some (cs, passed), passed)
      else longTextEnd? quote passed (quotes + 1) cs
    else
      match c, cs with
      | '\\', next :: cs =>
        longTextEnd? quote (if next = '\n' then passed + 1 else passed) 0 cs
      | _, cs => longTextEnd? quote (if c = '\n' then passed + 1 else passed) 0 cs

/-- The end of a text whose opening quote comes first, and how many lines it passes. -/
def textEnd (line : Nat) : List Char → Except ScanFault (List Char × Nat)
  | quote :: a :: b :: cs =>
    if a = quote && b = quote then
      match longTextEnd? quote 0 0 cs with
      | (some found, _) => .ok found
      | (none, passed) => .error (.unterminated true (line + passed))
    else short quote (a :: b :: cs)
  | quote :: cs => short quote cs
  | [] => .error (.unterminated false line)
where
  short (quote : Char) (cs : List Char) : Except ScanFault (List Char × Nat) :=
    match lineTextEnd? quote 0 cs with
    | (some found, _) => .ok found
    | (none, passed) => .error (.unterminated false (line + passed))

/-! Lines -/

/-- Columns of the blanks in front of a line, with tabs to every eighth column and, to find tabs and
blanks that are mixed up, with tabs of one column. -/
structure Margin where
  columns : Nat := 0
  narrow : Nat := 0
  deriving DecidableEq, Repr

/-- The blanks in front of a line. A line may be continued by a backslash while it is still empty;
then the blanks in front of the first backslash count. The rest, the margin, and the lines passed. -/
def margin (m : Margin) (first : Nat) (passed : Nat) :
    List Char → Except ScanFault (List Char × Margin × Nat)
  | ' ' :: cs => margin ⟨m.columns + 1, m.narrow + 1⟩ first passed cs
  | '\t' :: cs => margin ⟨(m.columns / 8 + 1) * 8, m.narrow + 1⟩ first passed cs
  | '\x0c' :: cs => margin {} first passed cs
  | '\\' :: '\n' :: c :: cs => margin m (if first = 0 then m.columns else first) (passed + 1) (c :: cs)
  | ['\\', '\n'] => .error .endExpected
  | '\\' :: _ => .error .endOfLineExpected
  | cs => .ok (cs, if first = 0 then m else ⟨first, first⟩, passed)

def maxIndents : Nat := 100

def maxBrackets : Nat := 200

structure Scan where
  rest : List Char
  line : Nat := 1
  brackets : List Bracket := []
  indents : List Margin := [{}]
  beginsLine : Bool := true
  /-- The line has nothing on it that counts. -/
  isEmpty : Bool := false

namespace Scan

def token (scan : Scan) (kind : TokenKind) (chars : List Char) (meetsEnd : Bool) : Token :=
  ⟨kind, chars, scan.line, scan.brackets.length, meetsEnd⟩

/-- Indents that end at this margin, and those that stay. -/
def dedents (columns : Nat) : List Margin → Nat × List Margin
  | margin :: outer =>
    if columns < margin.columns && !outer.isEmpty then
      let (closed, indents) := dedents columns outer
      (closed + 1, indents)
    else (0, margin :: outer)
  | [] => (0, [])

/-- The tokens for the blanks in front of a line. -/
def indentation (scan : Scan) (m : Margin) : Except ScanFault (List Token × Scan) :=
  let current := scan.indents.headD {}
  if m.columns = current.columns then
    if m.narrow = current.narrow then .ok ([], scan) else .error .tabs
  else if current.columns < m.columns then
    if maxIndents ≤ scan.indents.length then .error .tooManyIndents
    else if m.narrow ≤ current.narrow then .error .tabs
    else .ok ([scan.token .indent [] false], { scan with indents := m :: scan.indents })
  else
    let (closed, indents) := dedents m.columns scan.indents
    let current := indents.headD {}
    if current.columns ≠ m.columns then .error .dedent
    else if current.narrow ≠ m.narrow then .error .tabs
    else .ok (List.replicate closed (scan.token .dedent [] false), { scan with indents })

def startLine (scan : Scan) : Except ScanFault (List Token × Scan) := do
  let (rest, m, passed) ← margin {} 0 0 scan.rest
  let isEmpty := rest.head?.any fun c => c = '#' || c = '\n'
  let scan := { scan with rest, line := scan.line + passed, beginsLine := false, isEmpty }
  if isEmpty || !scan.brackets.isEmpty then .ok ([], scan) else scan.indentation m

/-- A token of these characters. -/
def take (scan : Scan) (kind : TokenKind) (rest : List Char) (looksOn : Bool) : List Token × Scan :=
  let chars := scan.rest.take (scan.rest.length - rest.length)
  ([scan.token kind chars (looksOn && rest.isEmpty)], { scan with rest })

def name (scan : Scan) : Except ScanFault (List Token × Scan) :=
  let (chars, rest) := scan.rest.span staysInName
  match if chars.all isAscii then none else misplaced? chars with
  | some c => .error (.character c)
  | none => .ok (scan.take (if keywords.contains chars then .symbol else .name) rest true)

def text (scan : Scan) (quoted : List Char) : Except ScanFault (List Token × Scan) := do
  let (rest, passed) ← textEnd scan.line quoted
  let (tokens, scan) := scan.take .text rest false
  return (tokens, { scan with line := scan.line + passed })

def openBracket (scan : Scan) (c : Char) (rest : List Char) : Except ScanFault (List Token × Scan) :=
  if maxBrackets ≤ scan.brackets.length then .error .tooManyBrackets
  else .ok ({ scan with brackets := ⟨c, scan.line⟩ :: scan.brackets }.take .symbol rest true)

def closeBracket (scan : Scan) (c : Char) (rest : List Char) :
    Except ScanFault (List Token × Scan) :=
  match scan.brackets with
  | [] => .error (.unmatched c)
  | ⟨opening, line⟩ :: brackets =>
    if closingOf opening ≠ c then
      .error (.mismatched c opening (if line = scan.line then none else some line))
    else .ok ({ scan with brackets }.take .symbol rest true)

def symbol (scan : Scan) (c : Char) (cs : List Char) : Except ScanFault (List Token × Scan) :=
  if threeCharSymbols.contains (scan.rest.take 3) then
    .ok (scan.take .symbol (scan.rest.drop 3) false)
  else if twoCharSymbols.contains (scan.rest.take 2) then
    .ok (scan.take .symbol (scan.rest.drop 2) true)
  else if ['(', '[', '{'].contains c then scan.openBracket c cs
  else if [')', ']', '}'].contains c then scan.closeBracket c cs
  else if !Text.isPrintable c then .error (.character c)
  else .ok (scan.take .symbol cs true)

/-- The tokens up to the next one that counts; nothing if the text ends here. -/
def step? (scan : Scan) : Except ScanFault (Option (List Token × Scan)) :=
  if scan.beginsLine then some <$> scan.startLine
  else
    match scan.rest with
    | [] =>
      match scan.brackets with
      | [] => .ok none
      | bracket :: _ => .error (.neverClosed bracket.opening)
    | '\n' :: rest =>
      let next := { scan with rest, line := scan.line + 1, beginsLine := true }
      if scan.isEmpty || !scan.brackets.isEmpty then .ok (some ([], next))
      else .ok (some ([scan.token .newline [] false], next))
    | '\\' :: '\n' :: c :: rest =>
      .ok (some ([], { scan with rest := c :: rest, line := scan.line + 1 }))
    | ['\\', '\n'] => .error .endExpected
    | '\\' :: _ => .error .endOfLineExpected
    | '.' :: '.' :: '.' :: rest => .ok (some (scan.take .symbol rest false))
    | c :: rest =>
      if c = ' ' || c = '\t' || c = '\x0c' then .ok (some ([], { scan with rest }))
      else if c = '#' then
        .ok (some ([], { scan with rest := rest.dropWhile (· != '\n') }))
      else if opensName c || isQuote c then
        match textStart? {} scan.rest with
        | some (_, quoted) => some <$> scan.text quoted
        | none => some <$> scan.name
      else if Text.isAsciiDigit c || (c = '.' && rest.head?.any Text.isAsciiDigit) then do
        return some (scan.take .number (← numberEnd scan.rest) true)
      else some <$> scan.symbol c rest

end Scan

/-- The tokens of a text, what stopped it, and the brackets that are open there. -/
structure Scanned where
  tokens : List Token
  fault : Option ScanFault := none
  brackets : List Bracket := []

def scanFrom : Nat → Scan → List Token → Scanned
  | 0, _, newestFirst => ⟨newestFirst.reverse, none, []⟩
  | fuel + 1, scan, newestFirst =>
    match scan.step? with
    | .error fault => ⟨newestFirst.reverse, some fault, scan.brackets⟩
    | .ok none => ⟨(scan.token .finish [] true :: newestFirst).reverse, none, []⟩
    | .ok (some (tokens, scan)) => scanFrom fuel scan (tokens.reverse ++ newestFirst)

/-- Each step takes a character or begins a line, which takes one the next time. -/
def scan (cs : List Char) : Scanned :=
  let cs := unifyLines cs
  scanFrom (2 * cs.length + 2) { rest := cs } []

end EventFilter.Literal
