import EventFilter.Text.Digit

/-! Message labels. A viewer shows a broker event as a label and a number, such as `BIP42`, and a
filter may repeat the label. It is taken away where a token or a bound starts with it and a digit
follows, in one pass from the left. -/
namespace EventFilter.Label

def isSeparator (c : Char) : Bool := c = ' ' || c = ',' || c = '-'

/-- The label stands in front, and a digit after it. -/
def leads (label cs : List Char) : Bool :=
  label.isPrefixOf cs && (cs.drop label.length).head?.any Text.isAsciiDigit

/-- Drops `skip` characters of a label already recognised, then goes on; what follows a separator
is looked at once. -/
def stripAfter (label : List Char) : Nat → List Char → List Char
  | _, [] => []
  | skip + 1, _ :: cs => stripAfter label skip cs
  | 0, c :: cs =>
    c :: stripAfter label (if isSeparator c && leads label cs then label.length else 0) cs

/-- The start of the text counts as a place after a separator. -/
def stripChars (label cs : List Char) : List Char :=
  stripAfter label (if leads label cs then label.length else 0) cs

def strip (label : Option String) (text : String) : String :=
  match label with
  | none => text
  | some label =>
    if label.isEmpty then text else String.ofList (stripChars label.toList text.toList)

/-- The label that most brokers use. -/
def standard : String := "BIP"

end EventFilter.Label
