import EventFilter.Proofs.Labelled
import EventFilter.Proofs.Lossless
import EventFilter.Proofs.Verdict

/-! Filters that ask for nothing. A filter selects all events exactly when there is nothing in it
but spaces, since no label takes a digit away with it. Other blanks are trimmed from an echo as
spaces are, but they are no part of a filter: a text of blanks that are not all spaces is
rejected. -/
namespace EventFilter

open Grammar Outcome Predicate

namespace Text

def OnlySpaces (text : String) : Prop := ∀ c ∈ text.toList, c = ' '

instance (text : String) : Decidable (OnlySpaces text) :=
  decidable_of_iff (text.toList.all (· = ' ') = true) (by simp [OnlySpaces])

theorem blank_digit {c : Char} (blanks : blank.contains c = true) : isAsciiDigit c = false := by
  obtain ⟨range, mem, low, high⟩ := (CharSet.contains_iff _ _).1 blanks
  rw [← Bool.not_eq_true, isAsciiDigit_iff]
  simp only [blank, List.mem_cons, List.not_mem_nil, or_false] at mem
  rcases mem with rfl | rfl | rfl | rfl | rfl | rfl | rfl | rfl | rfl | rfl <;>
    (simp only at low high; omega)

theorem trim_eq_empty {text : String} :
    trim text = "" ↔ ∀ c ∈ text.toList, blank.contains c = true := by
  rw [trim, ← String.toList_eq_nil_iff, String.toList_ofList, trimChars_eq_nil]

end Text

namespace Label

variable {label : List Char}

/-- The digit behind a label is no space and stays, so there is none if only spaces are left. -/
theorem stripFrom_spaces {after : Bool} {cs : List Char} :
    (∀ c ∈ stripFrom label after cs, c = ' ') ↔ ∀ c ∈ cs, c = ' ' := by
  induction cs generalizing after with
  | nil => cases after <;> rfl
  | cons c cs ih =>
    by_cases led : after = true ∧ leads label (c :: cs) = true
    · obtain ⟨rfl, leads⟩ := led
      obtain ⟨d, rest, same, digit⟩ := leads_iff.1 leads
      have other : d ≠ ' ' := Text.isAsciiDigit_ne digit rfl
      rw [same, stripFrom_label digit]
      refine iff_of_false (fun spaces => ?_) (fun spaces => ?_)
      · exact other (spaces d List.mem_cons_self)
      · exact other (spaces d List.mem_append_cons_self)
    · rw [stripFrom_cons led, List.forall_mem_cons, List.forall_mem_cons, ih]

theorem strip_spaces {label : Option String} {text : String} :
    Text.OnlySpaces (strip label text) ↔ Text.OnlySpaces text := by
  cases label with
  | none => rfl
  | some label =>
    rw [strip]
    split
    · rfl
    · rw [Text.OnlySpaces, String.toList_ofList, stripChars_eq, stripFrom_spaces]
      rfl

/-- Without a digit there is nothing that a label could stand in front of. -/
theorem stripFrom_eq_self {after : Bool} {cs : List Char}
    (none : ∀ c ∈ cs, Text.isAsciiDigit c = false) : stripFrom label after cs = cs := by
  induction cs generalizing after with
  | nil => cases after <;> rfl
  | cons c cs ih =>
    have stays : ¬(after = true ∧ leads label (c :: cs) = true) := by
      rintro ⟨-, leads⟩
      obtain ⟨d, rest, same, digit⟩ := leads_iff.1 leads
      rw [none d (same ▸ List.mem_append_cons_self)] at digit
      contradiction
    rw [stripFrom_cons stays, ih (List.forall_mem_cons.1 none).2]

theorem strip_eq_self (label : Option String) {text : String}
    (none : ∀ c ∈ text.toList, Text.isAsciiDigit c = false) : strip label text = text := by
  cases label with
  | none => rfl
  | some label =>
    rw [strip]
    split
    · rfl
    · rw [stripChars_eq, stripFrom_eq_self none, String.ofList_toList]

end Label

theorem Grammar.visible_eq_nil {text : String} : visible text = [] ↔ Text.OnlySpaces text := by
  simp [visible, Text.OnlySpaces]

namespace Selection

theorem isEmpty_ofTokens {tokens : List Token} :
    (ofTokens tokens).isEmpty = true ↔ tokens = [] := by
  constructor
  · intro empty
    cases tokens with
    | nil => rfl
    | cons token tokens =>
      rw [isEmpty_iff] at empty
      rcases token with ⟨_ | _, digits⟩ | ⟨_ | _, span⟩ <;>
        simp [ofTokens, id?, span?] at empty
  · rintro rfl
    rfl

theorem spells_nil {cs : List Char} : Spells [] cs ↔ cs = [] := by simp [Spells, joined]

theorem parse_empty_iff {text : String} :
    (∃ s, parse text = .ok s ∧ s.isEmpty = true) ↔ Text.OnlySpaces text := by
  rw [← visible_eq_nil, ← spells_nil]
  simp only [parse, map_eq_ok, tokens_eq_ok]
  constructor
  · rintro ⟨s, ⟨tokens, ⟨spelled, -⟩, rfl⟩, empty⟩
    rwa [isEmpty_ofTokens.1 empty] at spelled
  · intro spelled
    exact ⟨ofTokens [], ⟨[], ⟨spelled, by simp⟩, rfl⟩, rfl⟩

/-- The first blank that is no space is as unexpected as any letter. -/
theorem parse_blank {text : String} (blanks : ∀ c ∈ text.toList, Text.blank.contains c = true)
    (other : ¬Text.OnlySpaces text) : parse text = .error .unexpected := by
  have kept : ∀ c ∈ visible text, Text.blank.contains c = true ∧ c ≠ ' ' := by
    intro c mem
    obtain ⟨mem, shown⟩ := List.mem_filter.1 mem
    exact ⟨blanks c mem, of_decide_eq_true shown⟩
  rw [parse, tokens, Scan.run_visible, ← visible]
  cases chars : visible text with
  | nil => exact absurd (visible_eq_nil.1 chars) other
  | cons c cs =>
    obtain ⟨blank, shown⟩ := kept c (by rw [chars]; exact List.mem_cons_self)
    have hyphen : c ≠ '-' := by
      rintro rfl
      contradiction
    have fed : Scan.empty.feed c = .error .unexpected := by
      rw [Scan.feed, if_neg shown, Scan.empty, Pending.step, if_neg hyphen, Text.blank_digit blank]
      rfl
    rw [List.foldlM_cons, fed, error_bind, error_bind]
    rfl

theorem severityComparisons_eq_nil {limit : Int} :
    severityComparisons limit = [] ↔ limit = -1 := by
  rw [severityComparisons]
  split <;> simp [*]

theorem spanComparisons_eq_nil {toFirst toLast : Relation} {spans : List Span} :
    spans.flatMap (spanComparisons toFirst toLast) = [] ↔ spans = [] := by
  cases spans <;> simp [spanComparisons]

theorem comparisons_eq_nil {s : Selection} {limit : Int} :
    s.comparisons limit = [] ↔ limit = -1 ∧ s.isEmpty = true := by
  rw [comparisons, isEmpty_iff, List.append_eq_nil_iff, List.append_eq_nil_iff,
    List.append_eq_nil_iff, List.append_eq_nil_iff, List.map_eq_nil_iff, List.map_eq_nil_iff,
    severityComparisons_eq_nil, spanComparisons_eq_nil, spanComparisons_eq_nil]

end Selection

theorem Severity.code_eq_none {limit : Option Severity} : code limit = -1 ↔ limit = none := by
  rcases limit with _ | severity
  · exact iff_of_true rfl rfl
  · cases severity <;> exact iff_of_false (by decide) (by simp)

namespace Query

theorem text_eq_everything {q : Query} (valid : q.selection.Valid) :
    q.text = "*[System[(*)]]" ↔ q.limit = none ∧ q.selection.isEmpty = true := by
  have plain := Selection.comparisons_plain valid (Severity.code q.limit)
  have plainAll : (all everything []).Plain := by
    rintro c ⟨⟩
  have shown : "*[System[(*)]]" = (all everything []).system := rfl
  rw [shown, text, system_inj, predicate, render_eq_iff plain plainAll, ← Severity.code_eq_none]
  constructor
  · intro same
    have comparisons := congrArg Predicate.comparisons same
    rw [comparisons_canonical, comparisons_canonical,
      Selection.comparisons_predicate] at comparisons
    exact Selection.comparisons_eq_nil.1 (List.map_eq_nil_iff.1 comparisons)
  · rintro ⟨unlimited, empty⟩
    rw [unlimited, Selection.predicate, if_pos rfl, Selection.events_eq_none.2 empty]
    rfl

section

variable {level : Int} (known : level = -1 ∨ 1 ≤ level ∧ level ≤ 5) (source : String)
  (label : Option String)

include known

/-- A query that selects by no number at all comes from spaces alone. -/
theorem ofLevel_empty_iff : (∃ q, ofLevel source (.int level) label = .ok q ∧
    q.selection.isEmpty = true) ↔ Text.OnlySpaces source := by
  obtain ⟨limit, rfl⟩ := Severity.code_eq_iff.2 known
  rw [← Label.strip_spaces, ← Selection.parse_empty_iff]
  constructor
  · rintro ⟨q, compiled, empty⟩
    exact ⟨q.selection, (compile_eq_ok.1 (ofLevel_eq_ok.1 compiled).2).1, empty⟩
  · rintro ⟨s, parsed, empty⟩
    have sound : s.isAmbiguous = false := by
      rw [Selection.isAmbiguous, ((Selection.isEmpty_iff).1 empty).1.1]
      rfl
    exact ⟨⟨source, limit, s⟩, ofLevel_eq_ok.2 ⟨rfl, compile_eq_ok.2 ⟨parsed, sound, rfl, rfl⟩⟩,
      empty⟩

/-- A filter selects all events exactly if it consists of spaces, and its text then says so unless
there is a limit. A filter of other blanks is rejected. -/
theorem ofLevel_blank :
    ((∃ q, ofLevel source (.int level) label = .ok q ∧ q.selection.isEmpty = true) ↔
        Text.OnlySpaces source) ∧
      ((∃ q, ofLevel source (.int level) label = .ok q ∧ q.text = "*[System[(*)]]") ↔
        level = -1 ∧ Text.OnlySpaces source) ∧
      (Text.trim source = "" → Text.OnlySpaces source ∨
        ofLevel source (.int level) label = .error (.filter .unexpected source)) := by
  have empties := ofLevel_empty_iff known source label
  refine ⟨empties, ?_, fun blanks => ?_⟩
  · rw [← empties]
    constructor
    · rintro ⟨q, compiled, shown⟩
      obtain ⟨unlimited, empty⟩ := (text_eq_everything (selection_valid compiled)).1 shown
      have code := (ofLevel_eq_ok.1 compiled).1
      rw [unlimited, Json.int.injEq] at code
      exact ⟨code, q, compiled, empty⟩
    · rintro ⟨rfl, q, compiled, empty⟩
      refine ⟨q, compiled, (text_eq_everything (selection_valid compiled)).2 ⟨?_, empty⟩⟩
      exact Severity.code_eq_none.1 (Json.int.inj (ofLevel_eq_ok.1 compiled).1).symm
  · obtain ⟨limit, rfl⟩ := Severity.code_eq_iff.2 known
    by_cases spaces : Text.OnlySpaces source
    · exact .inl spaces
    · have blanks := Text.trim_eq_empty.1 blanks
      have unread := Selection.parse_blank blanks spaces
      rw [← Label.strip_eq_self label fun c mem => Text.blank_digit (blanks c mem)]
        at unread
      exact .inr (ofLevel_eq_error.2 (.inr ⟨limit, Severity.ofCode_code limit,
        compile_eq_error.2 (.inl ⟨_, unread, rfl⟩)⟩))

end

/-- Two spaces are no filter, and neither is a space with a no-break space, but that is an error. -/
theorem ofLevel_blank_spaces :
    (∃ q, ofLevel "  " (.int 3) (some "BIP") = .ok q ∧ q.selection.isEmpty = true) ∧
      ofLevel " \u00a0" (.int 3) (some "BIP") = .error (.filter .unexpected " \u00a0") := by
  have known : (3 : Int) = -1 ∨ 1 ≤ (3 : Int) ∧ (3 : Int) ≤ 5 := by decide
  obtain ⟨empty, -, -⟩ := ofLevel_blank known "  " (some "BIP")
  obtain ⟨-, -, blanks⟩ := ofLevel_blank known " \u00a0" (some "BIP")
  exact ⟨empty.2 (by decide), (blanks rfl).resolve_left (by decide)⟩

/-- A tab is a blank text, and yet no query that selects all events. -/
theorem not_ofLevel_tab : Text.trim "\t" = "" ∧
    ofLevel "\t" (.int (-1)) (some "BIP") = .error (.filter .unexpected "\t") ∧
    ¬∃ q, ofLevel "\t" (.int (-1)) (some "BIP") = .ok q ∧ q.selection.isEmpty = true := by
  have failed : ofLevel "\t" (.int (-1)) (some "BIP") = .error (.filter .unexpected "\t") := rfl
  refine ⟨rfl, failed, ?_⟩
  rintro ⟨q, compiled, -⟩
  rw [failed] at compiled
  contradiction

end Query
end EventFilter
