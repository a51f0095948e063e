import EventFilter.Filter.Scanner

/-! The events that a filter speaks of: IDs and spans to include and to exclude, each list in the
order of the tokens. -/
namespace EventFilter

structure Selection where
  includedIds : List String := []
  excludedIds : List String := []
  includedSpans : List Span := []
  excludedSpans : List Span := []
  deriving DecidableEq, Repr

namespace Selection

def id? (side : Side) : Token → Option String
  | .id other digits => if other = side then some digits else none
  | .range _ _ => none

def span? (side : Side) : Token → Option Span
  | .id _ _ => none
  | .range other span => if other = side then some span else none

def ofTokens (tokens : List Token) : Selection where
  includedIds := tokens.filterMap (id? .included)
  excludedIds := tokens.filterMap (id? .excluded)
  includedSpans := tokens.filterMap (span? .included)
  excludedSpans := tokens.filterMap (span? .excluded)

def parse (text : String) : Except Fault Selection := (tokens text).map ofTokens

def isEmpty (s : Selection) : Bool :=
  s.includedIds.isEmpty && s.excludedIds.isEmpty && s.includedSpans.isEmpty
    && s.excludedSpans.isEmpty

/-- Single IDs to include leave nothing for single IDs to exclude, unless a span is included. -/
def isAmbiguous (s : Selection) : Bool :=
  !s.includedIds.isEmpty && !s.excludedIds.isEmpty && s.includedSpans.isEmpty

/-- Each list goes on with that of the other. -/
def append (s t : Selection) : Selection where
  includedIds := s.includedIds ++ t.includedIds
  excludedIds := s.excludedIds ++ t.excludedIds
  includedSpans := s.includedSpans ++ t.includedSpans
  excludedSpans := s.excludedSpans ++ t.excludedSpans

instance : Append Selection := ⟨append⟩

theorem ofTokens_append (ts us : List Token) :
    ofTokens (ts ++ us) = ofTokens ts ++ ofTokens us := by
  show ofTokens (ts ++ us) = append (ofTokens ts) (ofTokens us)
  simp [ofTokens, append]

end Selection
end EventFilter
