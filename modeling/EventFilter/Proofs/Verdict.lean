import EventFilter.Proofs.Compiled
import EventFilter.Proofs.Parts

/-! The verdict on an event. A selection says which IDs it admits, and the predicate that is built
from it says the same in every shape that the builder gives it. -/
namespace EventFilter

open Outcome Predicate

/-- Both bounds count. -/
def Span.Covers (span : Span) (n : Int) : Prop :=
  (Text.value span.first : Int) ≤ n ∧ n ≤ (Text.value span.last : Int)

instance (span : Span) (n : Int) : Decidable (span.Covers n) :=
  inferInstanceAs (Decidable (_ ∧ _))

namespace Selection

def Included (s : Selection) (n : Int) : Prop :=
  (∃ id ∈ s.includedIds, n = Text.value id) ∨ ∃ span ∈ s.includedSpans, span.Covers n

def Excluded (s : Selection) (n : Int) : Prop :=
  (∃ id ∈ s.excludedIds, n = Text.value id) ∨ ∃ span ∈ s.excludedSpans, span.Covers n

/-- What includes nothing includes everything. -/
def Admits (s : Selection) (n : Int) : Prop :=
  (s.includedIds = [] ∧ s.includedSpans = [] ∨ s.Included n) ∧ ¬s.Excluded n

instance (s : Selection) (n : Int) : Decidable (s.Included n) :=
  decidable_of_iff ((s.includedIds.any fun id => n = Text.value id) = true ∨
    (s.includedSpans.any fun span => span.Covers n) = true) (by simp [Included])

instance (s : Selection) (n : Int) : Decidable (s.Excluded n) :=
  decidable_of_iff ((s.excludedIds.any fun id => n = Text.value id) = true ∨
    (s.excludedSpans.any fun span => span.Covers n) = true) (by simp [Excluded])

instance (s : Selection) (n : Int) : Decidable (s.Admits n) :=
  inferInstanceAs (Decidable (_ ∧ _))

/-- The severity is looked at first, and only if there is a limit; then the ID, and only if
anything is selected by it. -/
def verdict (s : Selection) (limit : Int) (event : Event) : Except IntegerError Bool := do
  if limit ≠ -1 then
    if !(← judge event severityField fun n => 0 < n ∧ n ≤ limit) then return false
  if s.isEmpty then return true
  judge event idField fun n => s.Admits n

section

variable {s : Selection} {n : Int}

theorem truth_eq_id (id : String) : (compareId .eq id).truth n = decide (n = Text.value id) :=
  Bool.beq_eq_decide_eq _ _

theorem truth_ne_id (id : String) : (compareId .ne id).truth n = !decide (n = Text.value id) :=
  congrArg not (Bool.beq_eq_decide_eq _ _)

theorem truth_betweenBounds (span : Span) :
    (betweenBounds span).truth n = decide (span.Covers n) := by
  rw [Bool.eq_iff_iff, decide_eq_true_iff, betweenBounds, between, both, Span.Covers]
  simp only [truth, allTrue, Operand.value]
  simp [Relation.holds]

theorem truth_outsideBounds (span : Span) :
    (outsideBounds span).truth n = !decide (span.Covers n) := by
  rw [Bool.eq_iff_iff, Bool.not_eq_true', decide_eq_false_iff_not, outsideBounds, outside, either,
    Span.Covers]
  simp only [truth, anyTrue, Operand.value]
  simp [Relation.holds]
  omega

theorem any_includedHalf : s.includedHalf.toList.any (truth n) = decide (s.Included n) := by
  rw [includedHalf_eq]
  refine (test_half .any _ _ n).trans ?_
  rw [Connective.test, List.any_append, List.any_map, List.any_map, Bool.eq_iff_iff,
    decide_eq_true_iff, Included]
  simp [truth_eq_id, truth_betweenBounds]

theorem all_excludedHalf : s.excludedHalf.toList.all (truth n) = !decide (s.Excluded n) := by
  rw [excludedHalf_eq]
  refine (test_half .all _ _ n).trans ?_
  rw [Connective.test, List.all_append, List.all_map, List.all_map, Bool.eq_iff_iff,
    Bool.not_eq_true', decide_eq_false_iff_not, Excluded]
  simp [truth_ne_id, truth_outsideBounds]

theorem includedHalf_eq_none :
    s.includedHalf = none ↔ s.includedIds = [] ∧ s.includedSpans = [] := by
  rw [includedHalf_eq, Connective.half_eq_none, List.map_eq_nil_iff, List.map_eq_nil_iff]

theorem excludedHalf_eq_none :
    s.excludedHalf = none ↔ s.excludedIds = [] ∧ s.excludedSpans = [] := by
  rw [excludedHalf_eq, Connective.half_eq_none, List.map_eq_nil_iff, List.map_eq_nil_iff]

/-- An absent half is no condition at all. -/
theorem all_includedHalf : s.includedHalf.toList.all (truth n) =
    decide (s.includedIds = [] ∧ s.includedSpans = [] ∨ s.Included n) := by
  have included := any_includedHalf (s := s) (n := n)
  cases half : s.includedHalf with
  | none =>
    have absent := includedHalf_eq_none.1 half
    simp [absent]
  | some p =>
    have present : ¬(s.includedIds = [] ∧ s.includedSpans = []) := by
      intro absent
      rw [includedHalf_eq_none.2 absent] at half
      contradiction
    rw [half] at included
    simpa [present] using included

theorem isEmpty_iff : s.isEmpty = true ↔
    (s.includedIds = [] ∧ s.includedSpans = []) ∧ s.excludedIds = [] ∧ s.excludedSpans = [] := by
  simp only [isEmpty, Bool.and_eq_true, List.isEmpty_iff]
  constructor
  · rintro ⟨⟨⟨includedIds, excludedIds⟩, includedSpans⟩, excludedSpans⟩
    exact ⟨⟨includedIds, includedSpans⟩, excludedIds, excludedSpans⟩
  · rintro ⟨⟨includedIds, includedSpans⟩, excludedIds, excludedSpans⟩
    exact ⟨⟨⟨includedIds, excludedIds⟩, includedSpans⟩, excludedSpans⟩

theorem events_eq_none : s.events = none ↔ s.isEmpty = true := by
  rw [events_eq, Connective.gather_eq_none, List.append_eq_nil_iff, Option.toList_eq_nil_iff,
    Option.toList_eq_nil_iff, includedHalf_eq_none, excludedHalf_eq_none, isEmpty_iff]

/-- The condition on the ID, if there is one, is met by the IDs that are admitted. -/
theorem all_events : s.events.toList.all (truth n) = decide (s.Admits n) := by
  rw [events_eq]
  refine (test_gather .all _ n).trans ?_
  rw [Connective.test, List.all_append, all_includedHalf, all_excludedHalf, Bool.eq_iff_iff,
    decide_eq_true_iff, Admits]
  simp

end

def IsReadable (digits : String) : Prop := Numeral.read digits = .ok (Text.value digits : Int)

/-- Every number can be read when an event is judged. -/
structure Readable (s : Selection) : Prop where
  includedIds : ∀ id ∈ s.includedIds, IsReadable id
  excludedIds : ∀ id ∈ s.excludedIds, IsReadable id
  includedSpans : ∀ span ∈ s.includedSpans, IsReadable span.first ∧ IsReadable span.last
  excludedSpans : ∀ span ∈ s.excludedSpans, IsReadable span.first ∧ IsReadable span.last

theorem readable_bounds {span : Span} (valid : span.Valid) :
    IsReadable span.first ∧ IsReadable span.last :=
  ⟨Numeral.read_of_isNumeral valid.first valid.firstShort,
    Numeral.read_of_isNumeral valid.last valid.lastShort⟩

theorem Valid.readable {s : Selection} (valid : s.Valid)
    (short : ∀ id ∈ s.includedIds ++ s.excludedIds, id.length ≤ Text.maxDigits) :
    s.Readable where
  includedIds id mem := Numeral.read_of_isNumeral (valid.includedIds id mem)
    (short id (List.mem_append_left _ mem))
  excludedIds id mem := Numeral.read_of_isNumeral (valid.excludedIds id mem)
    (short id (List.mem_append_right _ mem))
  includedSpans span mem := readable_bounds (valid.includedSpans span mem)
  excludedSpans span mem := readable_bounds (valid.excludedSpans span mem)

theorem on_compareId {id : String} (readable : IsReadable id) (relation : Relation) :
    (compareId relation id).On idField := ⟨rfl, readable⟩

theorem on_includedHalf {s : Selection} (readable : s.Readable) :
    ∀ p ∈ s.includedHalf, p.On idField := by
  rw [includedHalf_eq]
  apply on_half
  · rw [List.forall_mem_map]
    exact fun id mem => on_compareId (readable.includedIds id mem) .eq
  · rw [List.forall_mem_map]
    intro span mem
    obtain ⟨first, last⟩ := readable.includedSpans span mem
    exact ⟨on_compareId first .ge, on_compareId last .le, trivial⟩

theorem on_excludedHalf {s : Selection} (readable : s.Readable) :
    ∀ p ∈ s.excludedHalf, p.On idField := by
  rw [excludedHalf_eq]
  apply on_half
  · rw [List.forall_mem_map]
    exact fun id mem => on_compareId (readable.excludedIds id mem) .ne
  · rw [List.forall_mem_map]
    intro span mem
    obtain ⟨first, last⟩ := readable.excludedSpans span mem
    exact ⟨on_compareId first .lt, on_compareId last .gt, trivial⟩

theorem on_events {s : Selection} (readable : s.Readable) : ∀ p ∈ s.events, p.On idField := by
  rw [events_eq]
  apply on_gather
  rw [List.forall_mem_append]
  simp only [Option.mem_toList]
  exact ⟨on_includedHalf readable, on_excludedHalf readable⟩

theorem on_severityPart (limit : Int) : (severityPart limit).On severityField :=
  ⟨⟨rfl, rfl⟩, ⟨rfl, rfl⟩, trivial⟩

theorem truth_severityPart (limit n : Int) :
    (severityPart limit).truth n = decide (0 < n ∧ n ≤ limit) := by
  rw [Bool.eq_iff_iff, decide_eq_true_iff, severityPart, both]
  simp only [truth, allTrue, Operand.value]
  simp [Relation.holds]

theorem allHold_single (event : Event) (p : Predicate) : allHold event [p] = p.holds event := by
  rw [allHold]
  cases p.holds event with
  | error e => rfl
  | ok b => cases b <;> rfl

theorem holds_events {s : Selection} (readable : s.Readable) (event : Event) :
    allHold event s.events.toList =
      if s.isEmpty then .ok true else judge event idField fun n => s.Admits n := by
  cases built : s.events with
  | none =>
    rw [events_eq_none.1 built]
    rfl
  | some p =>
    have busy : ¬s.isEmpty = true := by
      rw [← events_eq_none, built]
      simp
    have truths (n : Int) : p.truth n = decide (s.Admits n) := by
      rw [← all_events, built]
      exact (Bool.and_true _).symm
    have judged := holds_eq_judge event (on_events readable p built)
    rw [if_neg busy, Option.toList_some, allHold_single, judged]
    simp only [truths]

/-- The predicate that is built says of an event what the selection says. -/
theorem holds_predicate {s : Selection} (readable : s.Readable) (limit : Int) (event : Event) :
    (s.predicate limit).holds event = s.verdict limit event := by
  have events := holds_events readable event
  by_cases unlimited : limit = -1
  · subst unlimited
    have whole : (s.predicate (-1)).holds event = allHold event s.events.toList := by
      rw [predicate, if_pos rfl]
      cases s.events with
      | none => rfl
      | some p => exact (allHold_single event p).symm
    rw [whole, events]
    rfl
  · rw [predicate, if_neg unlimited, holds, holds_eq_judge event (on_severityPart limit), events,
      verdict, if_pos unlimited]
    simp only [truth_severityPart]
    cases judge event severityField fun n => decide (0 < n ∧ n ≤ limit) with
    | error e => rfl
    | ok b => cases b <;> rfl

end Selection

namespace Query

/-- A compiled query selects the events that its selection and its limit are meant for. -/
theorem holds_eq_verdict {source : String} {level : Json} {label : Option String} {q : Query}
    (compiled : ofLevel source level label = .ok q)
    (short : ∀ id ∈ q.selection.includedIds ++ q.selection.excludedIds,
      id.length ≤ Text.maxDigits) (event : Event) :
    ∃ limit, level = .int limit ∧ q.holds event = q.selection.verdict limit event := by
  have readable := (selection_valid compiled).readable short
  exact ⟨Severity.code q.limit, (ofLevel_eq_ok.1 compiled).1,
    Selection.holds_predicate readable (Severity.code q.limit) event⟩

/-- Within a span that is included, an ID that is excluded; the event itself is severe enough. -/
theorem holds_eq_verdict_mixed :
    (∃ limit, Json.int 3 = .int limit ∧
      (⟨"1, 5-9, -7", some .warning, ⟨["1"], ["7"], [⟨"5", "9"⟩], []⟩⟩ : Query).holds
          [("EventID", .str " 7 "), ("Level", .int 2)] =
        (⟨["1"], ["7"], [⟨"5", "9"⟩], []⟩ : Selection).verdict limit
          [("EventID", .str " 7 "), ("Level", .int 2)]) ∧
      (⟨["1"], ["7"], [⟨"5", "9"⟩], []⟩ : Selection).verdict 3
        [("EventID", .str " 7 "), ("Level", .int 2)] = .ok false := by
  have compiled : ofLevel "1, 5-9, -7" (.int 3) (some "BIP") =
      .ok ⟨"1, 5-9, -7", some .warning, ⟨["1"], ["7"], [⟨"5", "9"⟩], []⟩⟩ := rfl
  exact ⟨holds_eq_verdict compiled (by decide) _, rfl⟩

end Query
end EventFilter
