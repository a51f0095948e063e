import EventFilter.Filter.Fault

/-! What can go wrong between a filter and its answer on an event. -/
namespace EventFilter

inductive Connective where
  | all
  | any
  deriving DecidableEq, Repr

inductive Failure where
  /-- A severity limit that does not exist, as it was shown. -/
  | severity (shown : String)
  /-- A number that has too many digits to be shown. -/
  | unwritable
  | filter (fault : Fault) (source : String)
  | integer (error : IntegerError)
  | emptyGroup (connective : Connective)
  | unknownOperator (symbol : String)
  deriving DecidableEq, Repr

def Failure.message : Failure → String
  | severity shown => "Invalid severity level " ++ shown ++ ". Use -1 for no level filter "
    ++ "or a value from 1 (Critical) to 5 (Verbose)"
  | unwritable => "Exceeds the limit (" ++ toString Text.maxDigits
    ++ " digits) for integer string conversion; "
    ++ "use sys.set_int_max_str_digits() to increase the limit"
  | filter fault source => fault.message source
  | integer error => error.message
  | emptyGroup .all => "AllOf requires at least one expression"
  | emptyGroup .any => "AnyOf requires at least one expression"
  | unknownOperator symbol => "Unsupported operator: " ++ Text.quoted symbol

end EventFilter
