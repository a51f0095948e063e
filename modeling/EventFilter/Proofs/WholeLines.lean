import EventFilter.Cli.Report
import EventFilter.Proofs.Outcome

/-! Whole lines. What is printed ends with the end of its last line, so what is printed behind it
begins a line of its own, and to leave that out takes away whole lines. -/
namespace EventFilter

open Outcome

namespace Text

/-- Nothing, or lines of which the last is ended too. -/
def Ended (text : String) : Prop := text = "" ∨ ∃ front, text = front ++ "\n"

theorem ended_empty : Ended "" := .inl rfl

theorem ended_append {a b : String} (first : Ended a) (second : Ended b) : Ended (a ++ b) := by
  rcases second with rfl | ⟨front, rfl⟩
  · rw [String.append_empty]
    exact first
  · exact .inr ⟨a ++ front, by rw [String.append_assoc]⟩

theorem ended_joinLines (lines : List (List Char)) : Ended (joinLines lines) := by
  induction lines with
  | nil => exact ended_empty
  | cons line rest ih => exact ended_append (.inr ⟨String.ofList line, rfl⟩) ih

theorem ended_printLine (text : String) : Ended (printLine text) := ended_joinLines _

theorem ended_join {texts : List String} (ended : ∀ text ∈ texts, Ended text) :
    Ended (String.join texts) := by
  induction texts with
  | nil => exact ended_empty
  | cons text texts ih =>
    obtain ⟨first, rest⟩ := List.forall_mem_cons.1 ended
    rw [String.join_cons]
    exact ended_append first (ih rest)

theorem ended_table {rows : List (Styled × String)} {text : String}
    (tabled : table rows = .ok text) : Ended text := by
  obtain ⟨lines, -, made⟩ := bind_eq_ok.1 tabled
  cases made
  exact ended_joinLines _

/-- The end of a line is where the next one begins. -/
theorem lines_newline (a b : List Char) : lines (a ++ '\n' :: b) = lines a ++ lines b := by
  induction a with
  | nil => rfl
  | cons c a ih =>
    obtain ⟨line, rest, cut⟩ := List.exists_cons_of_ne_nil (splitAt_ne_nil (· = '\n') a)
    simp only [lines, List.cons_append, splitAt] at ih ⊢
    rw [ih, cut]
    split <;> rfl

theorem Ended.lines_append {text : String} (ended : Ended text) :
    ∃ front, ∀ cs, lines (text.toList ++ cs) = front ++ lines cs := by
  rcases ended with rfl | ⟨front, rfl⟩
  · exact ⟨[], fun cs => rfl⟩
  · refine ⟨lines front.toList, fun cs => ?_⟩
    rw [String.toList_append, List.append_assoc]
    exact lines_newline front.toList cs

/-- What is printed behind whole lines adds lines to them. -/
theorem Ended.sublist {a b : String} (first : Ended a) (second : Ended b) :
    (lines a.toList).Sublist (lines (a ++ b).toList) := by
  obtain ⟨front, cut⟩ := first.lines_append
  obtain ⟨rest, cut'⟩ := second.lines_append
  have alone := cut []
  have behind := cut' []
  rw [List.append_nil] at alone behind
  rw [String.toList_append, alone, cut, behind]
  exact (List.sublist_append_right rest _).append_left front

end Text

open Text

namespace Cli.Report

theorem ended_members {rows : List (String × Json)} {text : String}
    (listed : members rows = .ok text) : Ended text := by
  obtain ⟨cells, -, listed⟩ := bind_eq_ok.1 listed
  obtain ⟨cells, -, listed⟩ := bind_eq_ok.1 listed
  exact ended_table (mapError_eq_ok.1 listed)

theorem ended_printWarnings (style : Style) (warnings : List String) :
    Ended (printWarnings style warnings).err := by
  unfold printWarnings
  split
  · exact ended_empty
  · apply ended_join
    rw [List.forall_mem_map]
    exact fun warning _ => ended_printLine _

end Cli.Report
end EventFilter
