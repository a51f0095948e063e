import EventFilter.Text.Letter
import EventFilter.Text.Printable
import EventFilter.Text.Quoted

/-! Tokens of expressions, and what keeps a text from being divided into tokens. Each token knows
its line and how many brackets are open behind it. -/
namespace EventFilter.Literal

inductive TokenKind where
  | name
  | number
  | text
  /-- Operators and brackets, and the words that have a meaning of their own. -/
  | symbol
  | newline
  | indent
  | dedent
  | finish
  deriving DecidableEq, Repr

structure Token where
  kind : TokenKind
  chars : List Char
  line : Nat
  depth : Nat
  /-- The end of the text was met while the end of the token was looked for. -/
  meetsEnd : Bool
  deriving DecidableEq, Repr

def keywords : List (List Char) :=
  ["False", "None", "True", "and", "as", "assert", "async", "await", "break", "class", "continue",
    "def", "del", "elif", "else", "except", "finally", "for", "from", "global", "if", "import",
    "in", "is", "lambda", "nonlocal", "not", "or", "pass", "raise", "return", "try", "while",
    "with", "yield"].map String.toList

/-- Words that have a meaning of their own only where a statement begins. -/
def softKeywords : List (List Char) := ["_", "case", "match"].map String.toList

/-- Such a word, or the beginning of one, as of a text that is still being written. -/
def beginsSoftKeyword (chars : List Char) : Bool := softKeywords.any chars.isPrefixOf

def threeCharSymbols : List (List Char) := ["**=", "//=", "<<=", ">>="].map String.toList

def twoCharSymbols : List (List Char) :=
  ["!=", "%=", "&=", "**", "*=", "+=", "-=", "->", "/=", "//", ":=", "<<", "<=", "<>", "==", ">=",
    ">>", "@=", "^=", "|="].map String.toList

/-- An opening bracket, and the line where it stands. -/
structure Bracket where
  opening : Char
  line : Nat
  deriving DecidableEq, Repr

def closingOf : Char → Char
  | '(' => ')'
  | '{' => '}'
  | _ => ']'

/-- Number literals of the four notations, and imaginary ones. -/
inductive Numeric where
  | decimal
  | hexadecimal
  | octal
  | binary
  | imaginary
  deriving DecidableEq, Repr

def Numeric.name : Numeric → String
  | decimal => "decimal"
  | hexadecimal => "hexadecimal"
  | octal => "octal"
  | binary => "binary"
  | imaginary => "imaginary"

inductive ScanFault where
  | numeric (kind : Numeric)
  | digit (c : Char) (kind : Numeric)
  | leadingZeros
  | character (c : Char)
  | unterminated (triple : Bool) (line : Nat)
  | unmatched (closing : Char)
  /-- The line of the opening bracket is told if it is another one. -/
  | mismatched (closing opening : Char) (line : Option Nat)
  | tooManyBrackets
  | neverClosed (opening : Char)
  | endExpected
  | endOfLineExpected
  | dedent
  | tabs
  | tooManyIndents
  deriving DecidableEq, Repr

/-- At least four capital hexadecimal digits. -/
def codeDigits (c : Char) : String := String.ofList ((Text.hexDigits 4 c.toNat).map Char.toUpper)

namespace ScanFault

def message : ScanFault → String
  | numeric kind => "invalid " ++ kind.name ++ " literal"
  | digit c kind =>
    "invalid digit '" ++ String.ofList [c] ++ "' in " ++ kind.name ++ " literal"
  | leadingZeros => "leading zeros in decimal integer literals are not permitted; "
    ++ "use an 0o prefix for octal integers"
  | character c =>
    if Text.isPrintable c then
      "invalid character '" ++ String.ofList [c] ++ "' (U+" ++ codeDigits c ++ ")"
    else "invalid non-printable character U+" ++ codeDigits c
  | unterminated triple line => "unterminated " ++ (if triple then "triple-quoted " else "")
    ++ "string literal (detected at line " ++ toString line ++ ")"
  | unmatched closing => "unmatched '" ++ String.ofList [closing] ++ "'"
  | mismatched closing opening line =>
    let place := match line with
      | some line => " on line " ++ toString line
      | none => ""
    "closing parenthesis '" ++ String.ofList [closing]
      ++ "' does not match opening parenthesis '" ++ String.ofList [opening] ++ "'" ++ place
  | tooManyBrackets => "too many nested parentheses"
  | neverClosed opening => "'" ++ String.ofList [opening] ++ "' was never closed"
  | endExpected => "unexpected EOF while parsing"
  | endOfLineExpected => "unexpected character after line continuation character"
  | dedent => "unindent does not match any outer indentation level"
  | tabs => "inconsistent use of tabs and spaces in indentation"
  | tooManyIndents => "too many levels of indentation"

/-- Faults that lie in a token itself count before anything that is wrong with the expression; the
others only if the expression goes on so far. -/
def isUrgent : ScanFault → Bool
  | neverClosed _ | endExpected | endOfLineExpected | dedent | tabs | tooManyIndents => false
  | _ => true

end ScanFault

/-- What stops the reading of an expression although nothing is wrong with it. -/
inductive Limit where
  /-- Too many rules are read at once, and nothing is left to tell of it. -/
  | level
  /-- The expression goes too deep. -/
  | depth
  deriving DecidableEq, Repr

def Limit.message : Limit → String
  | level => ""
  | depth => "maximum recursion depth exceeded during ast construction"

/-- Why an expression cannot be read. -/
inductive ReadFault where
  | mistake (message : String)
  | limit (limit : Limit)
  deriving DecidableEq, Repr

def ReadFault.message : ReadFault → String
  | mistake message => message
  | limit reached => reached.message

end EventFilter.Literal
