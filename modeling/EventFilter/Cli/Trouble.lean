import EventFilter.Failure
import EventFilter.Json.Basic

/-! What made a command fail, and how it is reported: a type, a message, perhaps a hint and
details, and the exit code. -/
namespace EventFilter.Cli

/-- Kinds of failure that are reported under a name alone. -/
inductive FaultKind where
  | value
  | unicode
  | key
  | runtime
  | type
  | overflow
  | markup
  deriving DecidableEq, Repr

def FaultKind.name : FaultKind → String
  | value => "ValueError"
  | unicode => "UnicodeError"
  | key => "KeyError"
  | runtime => "RuntimeError"
  | type => "TypeError"
  | overflow => "OverflowError"
  | markup => "MarkupError"

/-- The input is to blame, not the program. -/
def FaultKind.isInput : FaultKind → Bool
  | value | unicode => true
  | _ => false

structure ErrorInfo where
  type : String
  message : String
  hint : Option String := none
  details : Option (List (String × Json)) := none

inductive Trouble where
  | filter (message : String) (source : Option String)
  | severity (message : String)
  | plain (kind : FaultKind) (message : String)
  | declared (info : ErrorInfo) (exit : Int)

def filterHint : String :=
  "Use comma-separated IDs: 42 includes, -42 excludes, 5-99 and -5-99 include or "
    ++ "exclude a range, e.g. \"1, 2, 50-90, -55-60, -88\"."

namespace Trouble

def message : Trouble → String
  | filter message _ | severity message => message
  /- A missing key is shown as it would be looked up. -/
  | plain .key message => Text.quoted message
  | plain _ message => message
  | declared info _ => info.message

def info (trouble : Trouble) : ErrorInfo :=
  match trouble with
  | filter message source => ⟨"invalid_filter", message, some filterHint,
      source.map fun source => [("filter", .str source)]⟩
  | severity message => { type := "usage_error", message }
  | plain kind _ => { type := kind.name, message := trouble.message }
  | declared info _ => info

def exit : Trouble → Int
  | filter _ _ | severity _ => 2
  | plain kind _ => if kind.isInput then 2 else 1
  | declared _ exit => exit

def ofInteger (error : IntegerError) : Trouble :=
  match error with
  | .malformed _ | .oversized _ | .undefined => plain .value error.message
  | .infinite => plain .overflow error.message
  | .null | .array | .object => plain .type error.message

/-- A bound with too many digits is no fault of the filter's form, so it comes without a hint. -/
def ofFailure (failure : Failure) : Trouble :=
  match failure with
  | .severity _ => severity failure.message
  | .filter (.oversizedBound digits) _ => ofInteger (.oversized digits)
  | .filter _ source => filter failure.message (some source)
  | .integer error => ofInteger error
  | .unwritable | .emptyGroup _ | .unknownOperator _ => plain .value failure.message

end Trouble

/-- The heading of an error that is printed as text. -/
def ErrorInfo.title (info : ErrorInfo) : String :=
  match Text.trim info.type with
  | "usage_error" => "Usage error"
  | "invalid_filter" => "Invalid filter"
  | "io_error" => "I/O error"
  | "internal_error" => "Internal error"
  | _ => "Error"

end EventFilter.Cli
