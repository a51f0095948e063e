import EventFilter.Failure
import EventFilter.Filter.Selection
import EventFilter.Proofs.Segment

/-! Filters that go on after a comma. What stands in front of the comma is read as if nothing
followed, and what follows as if nothing stood in front of it: a fault in the first part stays what
it is, whatever follows, and otherwise the second part decides. -/
namespace EventFilter

open Grammar Outcome

namespace Grammar

theorem visible_append (a b : String) : visible (a ++ b) = visible a ++ visible b := by
  rw [visible, String.toList_append, List.filter_append, visible, visible]

/-- The segments up to a comma are those of the text that ends there. -/
theorem segments_append_comma (cs rest : List Char) :
    segments (cs ++ ',' :: rest) = segments (cs ++ [',']) ++ segments rest := by
  induction cs using segments_induction with
  | nil =>
    have whole : ',' ∉ ([] : List Char) := List.not_mem_nil
    rw [segments_append whole, segments_append whole, segments_nil, List.singleton_append]
  | single segment whole _ =>
    rw [segments_append whole, segments_append whole, segments_nil, List.singleton_append]
  | append front more whole ih =>
    have split (tail : List Char) :
        front ++ ',' :: more ++ tail = front ++ ',' :: (more ++ tail) := by
      rw [List.append_assoc, List.cons_append]
    rw [split, split, segments_append whole, segments_append whole, ih, List.cons_append]

end Grammar

/-- The tokens in front of a comma are read, and then those behind it. -/
theorem tokens_comma (a b : String) : tokens (a ++ "," ++ b) = do
    let front ← tokens (a ++ ",")
    let rest ← tokens b
    return front ++ rest := by
  have comma : visible "," = [','] := rfl
  have cut := segments_append_comma (visible a) (visible b)
  rw [← List.singleton_append, ← List.append_assoc] at cut
  simp only [tokens_eq_mapM, visible_append, comma, cut, List.mapM_append]

namespace Selection

/-- To read a filter is to read it up to any of its commas and then from there on: the first error
that this makes is the error of the whole, and otherwise each list of the one part is followed by
that of the other. -/
theorem parse_comma (a b source : String) :
    (parse (a ++ "," ++ b)).mapError (Failure.filter · source) = do
      let front ← (parse (a ++ ",")).mapError (Failure.filter · source)
      let rest ← (parse b).mapError (Failure.filter · source)
      return front ++ rest := by
  simp only [parse, tokens_comma]
  cases tokens (a ++ ",") with
  | error fault => rfl
  | ok front =>
    cases tokens b with
    | error fault => rfl
    | ok rest => exact congrArg Except.ok (ofTokens_append front rest)

end Selection
end EventFilter
