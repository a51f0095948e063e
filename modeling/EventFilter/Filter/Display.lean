import EventFilter.Filter.Selection

/-! How a selection reads in messages. -/
namespace EventFilter

def Span.display (span : Span) : String :=
  "EventRange(begin=" ++ Text.quoted span.first ++ ", end=" ++ Text.quoted span.last ++ ")"

namespace Selection

def displayIds (ids : List String) : String := Text.tuple (ids.map Text.quoted)

def displaySpans (spans : List Span) : String := Text.tuple (spans.map Span.display)

def display (s : Selection) : String :=
  "ParsedFilter(included_ids=" ++ displayIds s.includedIds
    ++ ", excluded_ids=" ++ displayIds s.excludedIds
    ++ ", included_ranges=" ++ displaySpans s.includedSpans
    ++ ", excluded_ranges=" ++ displaySpans s.excludedSpans ++ ")"

end Selection
end EventFilter
