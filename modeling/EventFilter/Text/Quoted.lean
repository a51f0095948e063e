import EventFilter.Text.Printable

/-! Quoted literals: a text between single quotes, or between double quotes if it holds a single
quote and no double one. The quote in use and the backslash are written after a backslash, and an
unprintable character as its code in the shortest of three widths. -/
namespace EventFilter.Text

def quoteFor (cs : List Char) : Char :=
  if cs.contains '\x27' && !cs.contains '"' then '"' else '\x27'

/-- Lower-case hexadecimal digits, padded with zeros to a width. -/
def hexDigits (width n : Nat) : List Char :=
  let digits := Nat.toDigits 16 n
  List.replicate (width - digits.length) '0' ++ digits

def escapeCode (n : Nat) : List Char :=
  if n < 0x100 then '\\' :: 'x' :: hexDigits 2 n
  else if n < 0x10000 then '\\' :: 'u' :: hexDigits 4 n
  else '\\' :: 'U' :: hexDigits 8 n

def escapeChar (quote c : Char) : List Char :=
  if c = quote || c = '\\' then ['\\', c]
  else if c = '\t' then ['\\', 't']
  else if c = '\n' then ['\\', 'n']
  else if c = '\r' then ['\\', 'r']
  else if isPrintable c then [c]
  else escapeCode c.toNat

def quotedChars (cs : List Char) : List Char :=
  quoteFor cs :: cs.flatMap (escapeChar (quoteFor cs)) ++ [quoteFor cs]

def quoted (text : String) : String := String.ofList (quotedChars text.toList)

/-- Items between parentheses; a lone item keeps a comma to tell it from a grouped expression. -/
def tuple : List String → String
  | [] => "()"
  | [item] => "(" ++ item ++ ",)"
  | items => "(" ++ ", ".intercalate items ++ ")"

end EventFilter.Text
