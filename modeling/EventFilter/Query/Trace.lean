import EventFilter.Filter.Display
import EventFilter.Log.Entry
import EventFilter.Query.Basic

/-! What is logged while a query is compiled: one record once the filter has been read, and one
once the query stands. -/
namespace EventFilter.Query

def readEntry (text : String) (s : Selection) : Log.Entry where
  logger := "evtquery.parser"
  level := Log.debug
  message := "parsed event filter " ++ Text.quoted text
    ++ ": included=" ++ Selection.displayIds s.includedIds
    ++ " excluded=" ++ Selection.displayIds s.excludedIds
    ++ " included_ranges=" ++ Selection.displaySpans s.includedSpans
    ++ " excluded_ranges=" ++ Selection.displaySpans s.excludedSpans

def compiledEntry (q : Query) : Log.Entry where
  logger := "evtquery.query"
  level := Log.debug
  message := "compiled event filter " ++ Text.quoted q.source ++ " level="
    ++ toString (Severity.code q.limit) ++ " -> " ++ q.text

def trace (source : String) (level : Json) (label : Option String) : List Log.Entry :=
  match Severity.ofJson level, read source label with
  | .ok limit, .ok selection =>
    readEntry (Label.strip label source) selection ::
      (match compile source limit label with
      | .ok q => [q.compiledEntry]
      | .error _ => [])
  | _, _ => []

end EventFilter.Query
