/-! Tokens of a filter. A token is one event ID or a span of IDs, and it either adds events or
takes them away. Numbers stay as they were typed. -/
namespace EventFilter

inductive Side where
  | included
  | excluded
  deriving DecidableEq, Repr

def Side.adjective : Side → String
  | .included => "inclusive"
  | .excluded => "exclusive"

/-- The mark in front of a token. -/
def Side.sign : Side → String
  | .included => ""
  | .excluded => "-"

structure Span where
  first : String
  last : String
  deriving DecidableEq, Repr

inductive Token where
  | id (side : Side) (digits : String)
  | range (side : Side) (span : Span)
  deriving DecidableEq, Repr

def Token.text : Token → String
  | .id side digits => side.sign ++ digits
  | .range side span => side.sign ++ span.first ++ "-" ++ span.last

end EventFilter
