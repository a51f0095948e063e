import EventFilter.Filter.Token
import EventFilter.Json.Integer
import EventFilter.Text.Blank

/-! What is wrong with a filter. Faults found in a token say so in its own words; the others echo
the whole filter as it was given, trimmed. -/
namespace EventFilter

inductive Fault where
  | unexpected
  | malformedSpan (side : Side)
  | missingId
  | missingBound (side : Side) (span : Span)
  | notAscending (side : Side) (first last : Nat)
  | oversizedBound (digits : Nat)
  /-- Included and excluded IDs stand together without an included span. -/
  | ambiguous
  deriving DecidableEq, Repr

/-- What a fault lies in: a token, a span on one side, or the mixture of them all. Beyond these, a
number may be too long to be read. -/
inductive Fault.Kind where
  | token
  | span (side : Side)
  | mixture
  | numeral
  deriving DecidableEq, Repr

def Fault.kind : Fault → Kind
  | unexpected | missingId => .token
  | malformedSpan side | missingBound side _ | notAscending side _ _ => .span side
  | oversizedBound _ => .numeral
  | ambiguous => .mixture

def Fault.message (source : String) : Fault → String
  | unexpected => "Invalid Event ID filter: '" ++ Text.trim source ++ "'"
  | malformedSpan side =>
    "Invalid " ++ side.adjective ++ " range filter: '" ++ Text.trim source ++ "'"
  | missingId => "Invalid exclusive filter '-'. The event ID must be specified"
  | missingBound side span => "Invalid " ++ side.adjective ++ " range filter " ++ side.sign ++ "'"
    ++ span.first ++ "'-'" ++ span.last ++ "'. Both parts of the range are required"
  | notAscending side first last => "Invalid " ++ side.adjective ++ " range filter '" ++ side.sign
    ++ toString first ++ "-" ++ toString last ++ "'. Begin must be < end"
  | oversizedBound digits => (IntegerError.oversized digits).message
  | ambiguous => "Invalid Event ID filter. Cannot have included and excluded events "
    ++ "in a filter without a range: '" ++ Text.trim source ++ "'"

end EventFilter
