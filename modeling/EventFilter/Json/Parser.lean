import EventFilter.Json.Basic
import EventFilter.Text.Digit

/-! Reading JSON. Each function takes what it reads from the front of a text and returns the rest;
the fuel bounds the nesting and the number of items, and a text is never longer than its fuel.
The doubles that JSON has no numeral for are read under their usual names. -/
namespace EventFilter.Json

def isSpace (c : Char) : Bool := c = ' ' || c = '\t' || c = '\n' || c = '\r'

def skipSpace (cs : List Char) : List Char := cs.dropWhile isSpace

def escape? : Char → Option Char
  | '"' => some '"'
  | '\\' => some '\\'
  | '/' => some '/'
  | 'b' => some '\x08'
  | 'f' => some '\x0c'
  | 'n' => some '\n'
  | 'r' => some '\r'
  | 't' => some '\t'
  | _ => none

def codeUnit? (a b c d : Char) : Option Nat := do
  return ((← Text.hexValue? a) * 16 + (← Text.hexValue? b)) * 256 + (← Text.hexValue? c) * 16
    + (← Text.hexValue? d)

/-- A high surrogate waits for its low half; a half without the other becomes U+FFFD. -/
def settle (text : String) : Option Nat → String
  | none => text
  | some _ => text.push '\ufffd'

def pushUnit (text : String) (high : Option Nat) (unit : Nat) : String × Option Nat :=
  if 0xd800 ≤ unit && unit < 0xdc00 then (settle text high, some unit)
  else if 0xdc00 ≤ unit && unit < 0xe000 then
    match high with
    | some h => (text.push (Char.ofNat (0x10000 + (h - 0xd800) * 0x400 + (unit - 0xdc00))), none)
    | none => (text.push '\ufffd', none)
  else ((settle text high).push (Char.ofNat unit), none)

/-- The text up to the closing quote, after an opening one. -/
def textBody (text : String) (high : Option Nat) : List Char → Option (String × List Char)
  | [] => none
  | '"' :: cs => some (settle text high, cs)
  | '\\' :: 'u' :: a :: b :: c :: d :: cs =>
    match codeUnit? a b c d with
    | none => none
    | some unit =>
      let (text, high) := pushUnit text high unit
      textBody text high cs
  | '\\' :: c :: cs =>
    match escape? c with
    | none => none
    | some c => textBody ((settle text high).push c) none cs
  | c :: cs => if c.toNat < 0x20 || c = '\\' then none else textBody ((settle text high).push c) none cs

def spanDigits (cs : List Char) : List Char × List Char := cs.span Text.isAsciiDigit

def natOf (digits : List Char) : Nat := Text.ofDigits (digits.map Text.asciiDigitValue)

/-- The double nearest to `digits * 10 ^ power`; far beyond the range of doubles the power alone
decides. -/
def doubleOf (negative : Bool) (digits : List Char) (power : Int) : Float :=
  let significant := digits.dropWhile (· = '0')
  let magnitude := significant.length + power
  let x :=
    if significant.isEmpty || magnitude < -400 then 0.0
    else if magnitude > 400 then 1.0 / 0.0
    else Float.ofScientific (natOf significant) (power < 0) power.natAbs
  if negative then -x else x

def exponentPart : List Char → Option (Option Int × List Char)
  | 'e' :: cs | 'E' :: cs =>
    let (negative, cs) := match cs with
      | '-' :: cs => (true, cs)
      | '+' :: cs => (false, cs)
      | cs => (false, cs)
    let (digits, rest) := spanDigits cs
    if digits.isEmpty then none
    else
      let n : Int := natOf digits
      some (some (if negative then -n else n), rest)
  | cs => some (none, cs)

def number (negative : Bool) (cs : List Char) : Option (Json × List Char) := do
  let (whole, cs) := spanDigits cs
  if whole.isEmpty || (whole.head? = some '0' && whole.length > 1) then none
  let (fraction, cs) ← match cs with
    | '.' :: cs =>
      let (fraction, rest) := spanDigits cs
      if fraction.isEmpty then none else some (some fraction, rest)
    | cs => some (none, cs)
  let (power, cs) ← exponentPart cs
  match fraction, power with
  | none, none =>
    let n : Int := natOf whole
    return (int (if negative then -n else n), cs)
  | fraction, power =>
    let fraction := fraction.getD []
    return (float (doubleOf negative (whole ++ fraction) (power.getD 0 - fraction.length)), cs)

mutual

def value : Nat → List Char → Option (Json × List Char)
  | 0, _ => none
  | fuel + 1, cs =>
    match skipSpace cs with
    | 'n' :: 'u' :: 'l' :: 'l' :: cs => some (null, cs)
    | 't' :: 'r' :: 'u' :: 'e' :: cs => some (bool true, cs)
    | 'f' :: 'a' :: 'l' :: 's' :: 'e' :: cs => some (bool false, cs)
    | 'N' :: 'a' :: 'N' :: cs => some (float (0.0 / 0.0), cs)
    | 'I' :: 'n' :: 'f' :: 'i' :: 'n' :: 'i' :: 't' :: 'y' :: cs => some (float (1.0 / 0.0), cs)
    | '-' :: 'I' :: 'n' :: 'f' :: 'i' :: 'n' :: 'i' :: 't' :: 'y' :: cs =>
      some (float (-1.0 / 0.0), cs)
    | '"' :: cs => (textBody "" none cs).map fun (text, cs) => (str text, cs)
    | '[' :: cs =>
      match skipSpace cs with
      | ']' :: cs => some (arr [], cs)
      | cs => (items fuel cs).map fun (items, cs) => (arr items, cs)
    | '\x7b' :: cs =>
      match skipSpace cs with
      | '\x7d' :: cs => some (obj [], cs)
      | cs => (members fuel [] cs).map fun (members, cs) => (obj members, cs)
    | '-' :: cs => number true cs
    | cs => number false cs

/-- At least one item, up to the closing bracket. -/
def items : Nat → List Char → Option (List Json × List Char)
  | 0, _ => none
  | fuel + 1, cs =>
    match value fuel cs with
    | none => none
    | some (item, cs) =>
      match skipSpace cs with
      | ']' :: cs => some ([item], cs)
      | ',' :: cs => (items fuel cs).map fun (rest, cs) => (item :: rest, cs)
      | _ => none

/-- At least one member, up to the closing brace, after those already read. -/
def members : Nat → List (String × Json) → List Char → Option (List (String × Json) × List Char)
  | 0, _, _ => none
  | fuel + 1, sofar, cs =>
    match skipSpace cs with
    | '"' :: cs =>
      match textBody "" none cs with
      | none => none
      | some (name, cs) =>
        match skipSpace cs with
        | ':' :: cs =>
          match value fuel cs with
          | none => none
          | some (value, cs) =>
            match skipSpace cs with
            | '\x7d' :: cs => some (insert sofar name value, cs)
            | ',' :: cs => members fuel (insert sofar name value) cs
            | _ => none
        | _ => none
    | _ => none

end

section

variable (cs : List Char)

@[simp] theorem value_zero : value 0 cs = none := by rw [value]

@[simp] theorem items_zero : items 0 cs = none := by rw [items]

@[simp] theorem members_zero (sofar : List (String × Json)) : members 0 sofar cs = none := by
  rw [members]

end

def parse (text : String) : Option Json :=
  let cs := text.toList
  match value (cs.length + 1) cs with
  | some (value, rest) => if (skipSpace rest).isEmpty then some value else none
  | none => none

end EventFilter.Json
