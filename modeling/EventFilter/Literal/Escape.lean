import EventFilter.Literal.Token
import EventFilter.Text.CharacterName

/-! Escapes in texts. A backslash and a letter stand for a character by its code or by its name, and
some of them are wrong. A character beyond ASCII counts as the ten bytes of its own escape. -/
namespace EventFilter.Literal

inductive EscapeReason where
  | truncated (letter : Char) (digits : Nat)
  | illegal
  | malformedName
  | unknownName
  deriving DecidableEq, Repr

def EscapeReason.message : EscapeReason → String
  | truncated letter digits =>
    "truncated \\" ++ String.ofList (letter :: List.replicate digits 'X') ++ " escape"
  | illegal => "illegal Unicode character"
  | malformedName => "malformed \\N character escape"
  | unknownName => "unknown Unicode character name"

/-- A wrong escape, from its backslash to the last byte that was read. -/
structure EscapeFault where
  first : Nat
  last : Nat
  reason : EscapeReason
  deriving DecidableEq, Repr

def isAsciiChar (c : Char) : Bool := c.toNat < 0x80

def byteWidth (c : Char) : Nat := if isAsciiChar c then 1 else 10

/-- Bytes of an escape by four digits, as a backslash before a character beyond ASCII is written. -/
def slashWidth : Nat := 6

def bytesIn : List Char → Nat
  | '\\' :: c :: cs => (if isAsciiChar c then 2 else slashWidth + byteWidth c) + bytesIn cs
  | c :: cs => byteWidth c + bytesIn cs
  | [] => 0

/-- What is wrong with an escape by name, whose letter comes last before the rest. -/
def nameFault? (position : Nat) : List Char → Option EscapeFault
  | '\x7b' :: cs =>
    match cs.span (· != '\x7d') with
    | (name, '\x7d' :: _) =>
      if name.isEmpty then some ⟨position, position + 2, .malformedName⟩
      else if Text.isCharacterName name then none
      else some ⟨position, position + 3 + bytesIn name, .unknownName⟩
    | (name, _) => some ⟨position, position + 2 + bytesIn name, .malformedName⟩
  | _ => some ⟨position, position + 1, .malformedName⟩

def codeLength? : Char → Option Nat
  | 'x' => some 2
  | 'u' => some 4
  | 'U' => some 8
  | _ => none

def maxCode : Nat := 0x10ffff

/-- What is wrong with an escape by code. -/
def codeFault? (position : Nat) (letter : Char) (length : Nat) (cs : List Char) :
    Option EscapeFault :=
  let digits := (cs.take length).takeWhile fun c => (Text.hexValue? c).isSome
  let last := position + 1 + digits.length
  if digits.length < length then some ⟨position, last, .truncated letter length⟩
  else if maxCode < digits.foldl (fun n c => 16 * n + (Text.hexValue? c).getD 0) 0 then
    some ⟨position, last, .illegal⟩
  else none

/-- The first wrong escape of a text. A backslash before a character beyond ASCII is written as an
escape itself. -/
def escapeFaultFrom? (position : Nat) : List Char → Option EscapeFault
  | [] => none
  | ['\\'] => none
  | '\\' :: c :: cs =>
    let fault :=
      if c = 'N' then nameFault? position cs
      else (codeLength? c).bind fun length => codeFault? position c length cs
    match fault with
    | some fault => some fault
    | none =>
      if isAsciiChar c then escapeFaultFrom? (position + 2) cs
      else escapeFaultFrom? (position + slashWidth + byteWidth c) cs
  | c :: cs => escapeFaultFrom? (position + byteWidth c) cs

def escapeFault? (cs : List Char) : Option EscapeFault := escapeFaultFrom? 0 cs

/-- Among bytes only an escape by two digits can be wrong; where it begins. -/
def byteFaultFrom? (position : Nat) : List Char → Option Nat
  | '\\' :: 'x' :: cs =>
    if ((cs.take 2).takeWhile fun c => (Text.hexValue? c).isSome).length < 2 then some position
    else byteFaultFrom? (position + 2) cs
  | '\\' :: _ :: cs => byteFaultFrom? (position + 2) cs
  | _ :: cs => byteFaultFrom? (position + 1) cs
  | [] => none

end EventFilter.Literal
