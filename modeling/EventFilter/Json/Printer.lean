import EventFilter.Decimal.Format
import EventFilter.Json.Basic
import EventFilter.Text.Quoted

/-! Writing JSON on one line, with a blank after each comma and colon. Characters beyond ASCII
stay as they are. A double that is not finite has no numeral and is written as null. -/
namespace EventFilter.Json

def renderFloat (x : Float) : String :=
  match Decimal.Parts.ofFloat x with
  | .finite _ _ _ => Decimal.plain.write x
  | .infinite _ | .undefined => "null"

def escapeChar (c : Char) : List Char :=
  if c = '"' then ['\\', '"']
  else if c = '\\' then ['\\', '\\']
  else if c = '\n' then ['\\', 'n']
  else if c = '\r' then ['\\', 'r']
  else if c = '\t' then ['\\', 't']
  else if c.toNat = 0x8 then ['\\', 'b']
  else if c.toNat = 0xc then ['\\', 'f']
  else if c.toNat < 0x20 then '\\' :: 'u' :: Text.hexDigits 4 c.toNat
  else [c]

def renderText (text : String) : String :=
  String.ofList ('"' :: text.toList.flatMap escapeChar ++ ['"'])

mutual

def render : Json → String
  | null => "null"
  | bool true => "true"
  | bool false => "false"
  | int n => toString n
  | float x => renderFloat x
  | str text => renderText text
  | arr [] => "[]"
  | arr (item :: items) => "[" ++ item.render ++ renderItems items ++ "]"
  | obj [] => "\x7b\x7d"
  | obj ((name, value) :: members) =>
    "\x7b" ++ renderText name ++ ": " ++ value.render ++ renderMembers members ++ "\x7d"

def renderItems : List Json → String
  | [] => ""
  | item :: items => ", " ++ item.render ++ renderItems items

def renderMembers : List (String × Json) → String
  | [] => ""
  | (name, value) :: members =>
    ", " ++ renderText name ++ ": " ++ value.render ++ renderMembers members

end

end EventFilter.Json
