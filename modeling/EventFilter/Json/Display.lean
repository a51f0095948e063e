import EventFilter.Decimal.Format
import EventFilter.Json.Basic
import EventFilter.Text.Digit
import EventFilter.Text.Quoted

/-! How a value reads in a message or a table: a text as it is, anything else as its literal, in
which texts are quoted. An integer is not written out if it has more digits than one may read. -/
namespace EventFilter.Json

mutual

def literal : Json → String
  | null => "None"
  | bool true => "True"
  | bool false => "False"
  | int n => toString n
  | float x => Decimal.plain.write x
  | str text => Text.quoted text
  | arr [] => "[]"
  | arr (item :: items) => "[" ++ item.literal ++ literalItems items ++ "]"
  | obj [] => "\x7b\x7d"
  | obj ((name, value) :: members) =>
    "\x7b" ++ Text.quoted name ++ ": " ++ value.literal ++ literalMembers members ++ "\x7d"

def literalItems : List Json → String
  | [] => ""
  | item :: items => ", " ++ item.literal ++ literalItems items

def literalMembers : List (String × Json) → String
  | [] => ""
  | (name, value) :: members =>
    ", " ++ Text.quoted name ++ ": " ++ value.literal ++ literalMembers members

end

mutual

/-- None of its integers has too many digits. -/
def isWritable : Json → Bool
  | int n => (toString n.natAbs).length ≤ Text.maxDigits
  | arr items => writableItems items
  | obj members => writableMembers members
  | null | bool _ | float _ | str _ => true

def writableItems : List Json → Bool
  | [] => true
  | item :: items => item.isWritable && writableItems items

def writableMembers : List (String × Json) → Bool
  | [] => true
  | (_, value) :: members => value.isWritable && writableMembers members

end

def display : Json → String
  | str text => text
  | value => value.literal

end EventFilter.Json
