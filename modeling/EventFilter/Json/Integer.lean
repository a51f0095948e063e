import EventFilter.Decimal.Shortest
import EventFilter.Json.Basic
import EventFilter.Text.Blank
import EventFilter.Text.Digit
import EventFilter.Text.Quoted

/-! The integer that a value denotes. A text is read as a decimal numeral, trimmed, with a sign and
with single underscores between digits of any script; a double loses its fraction. -/
namespace EventFilter

inductive IntegerError where
  | malformed (text : String)
  | oversized (digits : Nat)
  | infinite
  | undefined
  | null
  | array
  | object
  deriving DecidableEq, Repr

def IntegerError.message : IntegerError → String
  | malformed text =>
    "invalid literal for int() with base 10: " ++ ((Text.quoted text).take 200).toString
  | oversized digits => "Exceeds the limit (" ++ toString Text.maxDigits
    ++ " digits) for integer string conversion: value has " ++ toString digits
    ++ " digits; use sys.set_int_max_str_digits() to increase the limit"
  | infinite => "cannot convert float infinity to integer"
  | undefined => "cannot convert float NaN to integer"
  | null => notNumber "NoneType"
  | array => notNumber "list"
  | object => notNumber "dict"
where
  notNumber (kind : String) : String :=
    "int() argument must be a string, a bytes-like object or a real number, not '" ++ kind ++ "'"

namespace Numeral

/-- The values of the digits in front and the rest of the text. An underscore must stand after a
digit and before another. -/
def digits (afterDigit : Bool) : List Char → Option (List Nat × List Char)
  | [] => some ([], [])
  | c :: cs =>
    if c = '_' then
      if afterDigit && (cs.head?.bind Text.digitValue?).isSome then digits false cs else none
    else
      match Text.digitValue? c with
      | some d => (digits true cs).map fun (ds, rest) => (d :: ds, rest)
      | none => some ([], c :: cs)

/-- Too many digits are refused before what follows them is looked at. -/
def ofDigits? (text : String) (read : List Nat × List Char) : Except IntegerError Nat :=
  if Text.maxDigits < read.1.length then .error (.oversized read.1.length)
  else if read.1.isEmpty || !read.2.isEmpty then .error (.malformed text)
  else .ok (Text.ofDigits read.1)

def unsigned (text : String) (cs : List Char) : Except IntegerError Nat :=
  match digits false cs with
  | none => .error (.malformed text)
  | some read => ofDigits? text read

def read (text : String) : Except IntegerError Int :=
  match Text.trimChars Text.numeralBlank text.toList with
  | '-' :: cs => (unsigned text cs).map fun n => -n
  | '+' :: cs => (unsigned text cs).map Int.ofNat
  | cs => (unsigned text cs).map Int.ofNat

end Numeral

def Json.toInt : Json → Except IntegerError Int
  | .int n => .ok n
  | .bool b => .ok b.toInt
  | .float x =>
    match Decimal.Parts.ofFloat x with
    | .finite negative mantissa exponent => .ok (Decimal.truncate negative mantissa exponent)
    | .infinite _ => .error .infinite
    | .undefined => .error .undefined
  | .str text => Numeral.read text
  | .arr _ => .error .array
  | .obj _ => .error .object
  | .null => .error .null

end EventFilter
