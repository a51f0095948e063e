import EventFilter.Failure
import EventFilter.Json.Display

/-! Severity limits. The lower its number, the more severe an event; a limit keeps what is at least
as severe, and events without a severity, which have number zero, are never kept. -/
namespace EventFilter

inductive Severity where
  | critical
  | error
  | warning
  | informational
  | verbose
  deriving DecidableEq, Repr

namespace Severity

def number : Severity → Int
  | critical => 1
  | error => 2
  | warning => 3
  | informational => 4
  | verbose => 5

/-- No limit is written as a number of its own. -/
def code : Option Severity → Int
  | none => -1
  | some severity => severity.number

/-- What is no code is shown as it was given. -/
def unknown (level : Json) : Failure :=
  if level.isWritable then .severity level.display else .unwritable

def ofCode (code : Int) : Except Failure (Option Severity) :=
  match code with
  | -1 => .ok none
  | 1 => .ok (some critical)
  | 2 => .ok (some error)
  | 3 => .ok (some warning)
  | 4 => .ok (some informational)
  | 5 => .ok (some verbose)
  | _ => .error (unknown (.int code))

/-- Only an integer is a code; a double or a truth value of the same size is not. -/
def ofJson : Json → Except Failure (Option Severity)
  | .int code => ofCode code
  | value => .error (unknown value)

theorem ofCode_code (limit : Option Severity) : ofCode (code limit) = .ok limit := by
  rcases limit with _ | severity
  · rfl
  · cases severity <;> rfl

theorem code_of_ofCode {n : Int} {limit : Option Severity} (h : ofCode n = .ok limit) :
    code limit = n := by
  unfold ofCode at h
  split at h <;> cases h <;> rfl

end Severity
end EventFilter
