import EventFilter.Text.Quoted
import EventFilter.Text.Similarity

/-! What is wrong with a command line. A name that is not known comes with the known ones that may
have been meant. -/
namespace EventFilter.Cli

structure Interval where
  low : Option Int
  high : Option Int
  deriving DecidableEq, Repr

def Interval.contains (interval : Interval) (n : Int) : Bool :=
  interval.low.all (· ≤ n) && interval.high.all (n ≤ ·)

def Interval.display (interval : Interval) : String :=
  let low := match interval.low, interval.high with
    | some low, some _ => toString low ++ "<="
    | _, _ => ""
  match interval.low, interval.high with
  | _, some high => low ++ "x<=" ++ toString high
  | some low, none => "x>=" ++ toString low
  | none, none => "x"

inductive BadValue where
  | notInteger (text : String)
  | outOfRange (n : Int) (interval : Interval)
  | notAChoice (text : String) (choices : List String)
  | directory (path : String)
  deriving DecidableEq, Repr

def BadValue.message : BadValue → String
  | notInteger text => Text.quoted text ++ " is not a valid integer range."
  | outOfRange n interval => toString n ++ " is not in the range " ++ interval.display ++ "."
  | notAChoice text choices =>
    Text.quoted text ++ " is not one of " ++ ", ".intercalate (choices.map Text.quoted) ++ "."
  | directory path => "File " ++ Text.quoted path ++ " is a directory."

inductive UsageError where
  | unknownOption (name : String) (known : List String)
  | unknownCommand (name : String) (known : List String)
  | needsValue (option : String)
  | takesNoValue (option : String)
  | badValue (option : String) (reason : BadValue)
  | missingArgument (name : String)
  | missingOption (option : String)
  | unexpected (arguments : List String)
  deriving DecidableEq, Repr

/-- Names that may have been meant, after a blank; nothing if none is close. -/
def suggestion (known : List String) (typed : String) : String :=
  match Text.closest known typed with
  | [] => ""
  | [name] => " Did you mean " ++ Text.quoted name ++ "?"
  | names => " (Did you mean one of: " ++ ", ".intercalate (names.map Text.quoted) ++ "?)"

def UsageError.message : UsageError → String
  | unknownOption name known =>
    "No such option " ++ Text.quoted name ++ "." ++ suggestion known name
  | unknownCommand name known =>
    "No such command " ++ Text.quoted name ++ "." ++ suggestion known name
  | needsValue option => "Option " ++ Text.quoted option ++ " requires an argument."
  | takesNoValue option => "Option " ++ Text.quoted option ++ " does not take a value."
  | badValue option reason => "Invalid value for '" ++ option ++ "': " ++ reason.message
  | missingArgument name => "Missing argument '" ++ name ++ "'."
  | missingOption option => "Missing option '" ++ option ++ "'."
  | unexpected arguments =>
    (if arguments.length = 1 then "Got unexpected extra argument (" else
      "Got unexpected extra arguments (") ++ " ".intercalate arguments ++ ")"

end EventFilter.Cli
