import EventFilter.Proofs.Assembly
import EventFilter.Proofs.Lossless
import EventFilter.Proofs.PrintedPredicate

/-! Brackets. In the text of a predicate every bracket that is opened is closed again, and none is
closed that is not open. There are as many pairs as there are groups in the tree, and they nest as
deep as the groups do. A query adds square brackets of its own around them. -/
namespace EventFilter

namespace Text

/-- So many pairs of brackets, each opened before it is closed and closed before the end, with so
many of them open where they nest deepest. -/
structure Nested (opening closing : Char) (pairs depth : Nat) (cs : List Char) : Prop where
  opened : cs.count opening = pairs
  closed : cs.count closing = pairs
  inside : ∀ front, front <+: cs → front.count closing ≤ front.count opening
  within : ∀ front, front <+: cs → front.count opening ≤ front.count closing + depth
  reached : ∃ front, front <+: cs ∧ front.count opening = front.count closing + depth

theorem prefix_append_cases {α : Type} {front a b : List α} (h : front <+: a ++ b) :
    front <+: a ∨ ∃ more, front = a ++ more ∧ more <+: b := by
  rcases List.prefix_or_prefix_of_prefix h (List.prefix_append a b) with short | ⟨more, rfl⟩
  · exact .inl short
  · exact .inr ⟨more, rfl, (List.prefix_append_right_inj a).1 h⟩

namespace Nested

variable {opening closing : Char} {a b cs : List Char} {m n j k : Nat}

theorem plain (free : ∀ c ∈ cs, c ≠ opening ∧ c ≠ closing) :
    Nested opening closing 0 0 cs := by
  have none {front : List Char} (start : front <+: cs) :
      front.count opening = 0 ∧ front.count closing = 0 :=
    ⟨List.count_eq_zero.2 fun mem => (free _ (start.subset mem)).1 rfl,
      List.count_eq_zero.2 fun mem => (free _ (start.subset mem)).2 rfl⟩
  refine ⟨(none List.prefix_rfl).1, (none List.prefix_rfl).2, fun front start => ?_,
    fun front start => ?_, [], List.nil_prefix, rfl⟩
  · have never := none start
    omega
  · have never := none start
    omega

/-- One text after another nests as deep as the deeper of them. -/
theorem append (first : Nested opening closing j m a) (second : Nested opening closing k n b) :
    Nested opening closing (j + k) (max m n) (a ++ b) where
  opened := by rw [List.count_append, first.opened, second.opened]
  closed := by rw [List.count_append, first.closed, second.closed]
  inside front start := by
    rcases prefix_append_cases start with short | ⟨more, rfl, later⟩
    · exact first.inside front short
    · have still := second.inside more later
      rw [List.count_append, List.count_append, first.opened, first.closed]
      omega
  within front start := by
    rcases prefix_append_cases start with short | ⟨more, rfl, later⟩
    · have still := first.within front short
      omega
    · have still := second.within more later
      rw [List.count_append, List.count_append, first.opened, first.closed]
      omega
  reached := by
    obtain ⟨front, start, deep⟩ := first.reached
    obtain ⟨more, start', deep'⟩ := second.reached
    rcases Nat.le_total n m with le | le
    · exact ⟨front, start.trans (List.prefix_append a b), by omega⟩
    · refine ⟨a ++ more, (List.prefix_append_right_inj a).2 start', ?_⟩
      rw [List.count_append, List.count_append, first.opened, first.closed]
      omega

/-- One more pair of brackets is around all the others. -/
theorem wrap (apart : opening ≠ closing) (inner : Nested opening closing k n cs) :
    Nested opening closing (k + 1) (n + 1) (opening :: (cs ++ [closing])) where
  opened := by simp [inner.opened, apart.symm]
  closed := by simp [inner.closed, apart]
  inside front start := by
    rcases List.prefix_cons_iff.1 start with rfl | ⟨front, rfl, begun⟩
    · exact Nat.le_refl _
    · rcases List.prefix_concat_iff.1 begun with rfl | short
      · simp [inner.opened, inner.closed, apart, apart.symm]
      · have still := inner.inside front short
        simp only [List.count_cons_self, List.count_cons_of_ne apart]
        omega
  within front start := by
    rcases List.prefix_cons_iff.1 start with rfl | ⟨front, rfl, begun⟩
    · exact Nat.zero_le _
    · rcases List.prefix_concat_iff.1 begun with rfl | short
      · simp [inner.opened, inner.closed, apart, apart.symm]
      · have still := inner.within front short
        simp only [List.count_cons_self, List.count_cons_of_ne apart]
        omega
  reached := by
    obtain ⟨front, start, deep⟩ := inner.reached
    refine ⟨opening :: front, ?_, ?_⟩
    · exact List.prefix_cons_iff.2 (.inr ⟨front, rfl, start.trans (List.prefix_append _ _)⟩)
    · rw [List.count_cons_self, List.count_cons_of_ne apart, deep]
      omega

end Nested

/-- Round and square ones. -/
def brackets : List Char := "()[]".toList

theorem Nested.unbracketed {opening closing : Char} {cs : List Char}
    (free : ∀ c ∈ cs, c ∉ brackets) (opens : opening ∈ brackets) (closes : closing ∈ brackets) :
    Nested opening closing 0 0 cs := by
  apply Nested.plain
  intro c mem
  constructor
  · rintro rfl
    exact free _ mem opens
  · rintro rfl
    exact free _ mem closes

end Text

open Text

namespace Predicate

mutual

/-- How many groups there are, one in another or side by side. -/
def groups : Predicate → Nat
  | everything | compare _ _ _ => 0
  | all first rest | any first rest => first.groups + groupsOf rest + 1

def groupsOf : List Predicate → Nat
  | [] => 0
  | p :: ps => p.groups + groupsOf ps

end

mutual

/-- How many groups are in one another. -/
def nesting : Predicate → Nat
  | everything | compare _ _ _ => 0
  | all first rest | any first rest => max first.nesting (nestingOf rest) + 1

def nestingOf : List Predicate → Nat
  | [] => 0
  | p :: ps => max p.nesting (nestingOf ps)

end

theorem groups_group (kind : Connective) (first : Predicate) (rest : List Predicate) :
    (group kind first rest).groups = first.groups + groupsOf rest + 1 := by
  cases kind <;> rfl

theorem nesting_group (kind : Connective) (first : Predicate) (rest : List Predicate) :
    (group kind first rest).nesting = max first.nesting (nestingOf rest) + 1 := by
  cases kind <;> rfl

/-- No bracket stands in a field or in an operand. -/
def Unbracketed (p : Predicate) : Prop := ∀ c ∈ p.comparisons, c.Written (· ∉ brackets)

abbrev UnbracketedList (ps : List Predicate) : Prop :=
  ∀ c ∈ comparisonsOf ps, c.Written (· ∉ brackets)

theorem nested_compare {field : String} {relation : Relation} {operand : Operand}
    (unbracketed : (compare field relation operand).Unbracketed) :
    Nested '(' ')' 0 0 (compare field relation operand).render.toList := by
  obtain ⟨inField, inOperand⟩ := unbracketed _ List.mem_cons_self
  have blank : ∀ c ∈ " ".toList, c ∉ brackets := by decide
  have symbol : ∀ c ∈ relation.symbol.toList, c ∉ brackets := by cases relation <;> decide
  refine Nested.unbracketed ?_ (by decide) (by decide)
  simp only [render, String.toList_append, List.forall_mem_append]
  exact ⟨⟨⟨⟨inField, blank⟩, symbol⟩, blank⟩, inOperand⟩

theorem nested_group (kind : Connective) {first : Predicate} {rest : List Predicate}
    (inFirst : Nested '(' ')' first.groups first.nesting first.render.toList)
    (inRest : Nested '(' ')' (groupsOf rest) (nestingOf rest)
      (renderRest kind.joint rest).toList) :
    Nested '(' ')' (group kind first rest).groups (group kind first rest).nesting
      (group kind first rest).render.toList := by
  rw [groups_group, nesting_group, group_chars, ← List.append_assoc]
  exact (inFirst.append inRest).wrap (by decide)

mutual

/-- The brackets of the text are the groups of the tree. -/
theorem nested_render : ∀ p : Predicate, p.Unbracketed →
    Nested '(' ')' p.groups p.nesting p.render.toList
  | everything, _ => .plain (by decide)
  | compare _ _ _, unbracketed => nested_compare unbracketed
  | all first rest, unbracketed => by
    obtain ⟨inFirst, inRest⟩ := List.forall_mem_append.1 unbracketed
    exact nested_group .all (nested_render first inFirst) (nested_renderRest .all rest inRest)
  | any first rest, unbracketed => by
    obtain ⟨inFirst, inRest⟩ := List.forall_mem_append.1 unbracketed
    exact nested_group .any (nested_render first inFirst) (nested_renderRest .any rest inRest)

theorem nested_renderRest (kind : Connective) : ∀ ps : List Predicate, UnbracketedList ps →
    Nested '(' ')' (groupsOf ps) (nestingOf ps) (renderRest kind.joint ps).toList
  | [], _ => .plain nofun
  | p :: ps, unbracketed => by
    obtain ⟨inFirst, inRest⟩ := List.forall_mem_append.1 unbracketed
    have joint : Nested '(' ')' 0 0 kind.joint.toList := by
      apply Nested.plain
      cases kind <;> decide
    have members :=
      (joint.append (nested_render p inFirst)).append (nested_renderRest kind ps inRest)
    rw [Nat.zero_add, Nat.zero_max] at members
    simpa only [renderRest, groupsOf, nestingOf, String.toList_append] using members

end

/-- A query has square brackets around its predicate, and nowhere else. -/
theorem nested_system {p : Predicate} (unbracketed : p.Unbracketed) :
    Nested '(' ')' p.groups p.nesting p.system.toList ∧ Nested '[' ']' 2 2 p.system.toList := by
  have unsquared : ∀ c ∈ p.render.toList, c ≠ '[' ∧ c ≠ ']' := by
    have frame : ∀ c ∈ frameChars, c ≠ '[' ∧ c ≠ ']' := by decide
    refine written_render frame p fun c mem => (unbracketed c mem).imp fun d free => ?_
    exact ⟨fun same => free (same ▸ by decide), fun same => free (same ▸ by decide)⟩
  constructor
  · have front : Nested '(' ')' 0 0 "*[System[".toList := .plain (by decide)
    have back : Nested '(' ')' 0 0 "]]".toList := .plain (by decide)
    have whole := (front.append (nested_render p unbracketed)).append back
    rw [Nat.zero_add, Nat.zero_max, Nat.add_zero, Nat.max_zero] at whole
    simpa only [system, String.toList_append] using whole
  · have star : Nested '[' ']' 0 0 ['*'] := .plain (by decide)
    have name : Nested '[' ']' 0 0 "System".toList := .plain (by decide)
    have body : Nested '[' ']' 1 1 ('[' :: (p.render.toList ++ [']'])) :=
      (Nested.plain unsquared).wrap (by decide)
    have whole := star.append ((name.append body).wrap (by decide))
    simpa [system] using whole

end Predicate

/-- Names, numerals and truth values hold no brackets. -/
theorem Comparison.Plain.unbracketed {c : Comparison} (plain : c.Plain) :
    c.Written (· ∉ brackets) := by
  have letters : ∀ d ∈ brackets, d.isAlphanum = false := by decide
  have digits : ∀ d ∈ brackets, ¬(isAsciiDigit d = true ∨ d = '-') := by decide
  constructor
  · intro d mem bracket
    have letter := plain.field.2 d mem
    rw [letters d bracket] at letter
    contradiction
  · rcases Operand.display_chars plain.operand with ⟨b, shown⟩ | ⟨-, chars⟩
    · rw [shown]
      cases b <;> decide
    · exact fun d mem bracket => digits d bracket (chars d mem)

namespace Selection

theorem predicate_eq_all (s : Selection) (limit : Int) :
    ∃ first rest, s.predicate limit = .all first rest := by
  unfold predicate
  split
  · rw [events_eq]
    cases s.includedHalf.toList ++ s.excludedHalf.toList with
    | nil => exact ⟨_, _, rfl⟩
    | cons p ps => exact ⟨p, ps, rfl⟩
  · exact ⟨_, _, rfl⟩

end Selection

namespace Predicate

theorem system_all (first : Predicate) (rest : List Predicate) :
    ∃ inner, (all first rest).system = "*[System[(" ++ inner ++ ")]]" := by
  refine ⟨first.render ++ renderRest " and " rest, ?_⟩
  simp [system, render, ← String.toList_inj]

/-- Brackets tell the groups of every predicate. Whatever is selected, its predicate is put together
without a fault and is a group, so that the brackets of every query are in order. -/
theorem brackets_exact :
    (∀ p : Predicate, p.Unbracketed → Nested '(' ')' p.groups p.nesting p.render.toList) ∧
      (∀ (s : Selection) (limit : Int), ∃ first rest,
        (s.recipe limit).build = .ok (all first rest) ∧ s.predicate limit = all first rest) ∧
      ∀ (source : String) (level : Json) (label : Option String) (q : Query),
        Query.ofLevel source level label = .ok q →
          (∃ inner, q.text = "*[System[(" ++ inner ++ ")]]") ∧
          Nested '(' ')' q.predicate.groups q.predicate.nesting q.text.toList ∧
          Nested '[' ']' 2 2 q.text.toList := by
  refine ⟨nested_render, fun s limit => ?_, fun source level label q compiled => ?_⟩
  · obtain ⟨first, rest, group⟩ := s.predicate_eq_all limit
    exact ⟨first, rest, group ▸ s.build_recipe limit, group⟩
  · obtain ⟨first, rest, group⟩ := q.selection.predicate_eq_all (Severity.code q.limit)
    have plain := Selection.comparisons_plain (Query.selection_valid compiled)
      (Severity.code q.limit)
    refine ⟨?_, nested_system fun c mem => (plain c mem).unbracketed⟩
    rw [Query.text, Query.predicate, group]
    exact system_all first rest

/-- A group of two, one of which is a group of its own; a selection that no text stands for; and a
query with a limit. -/
theorem brackets_exact_limited :
    Nested '(' ')' 2 2 (any (compare "Level" .eq (.int (-7))) [all everything []]).render.toList ∧
      (∃ first rest, ((⟨[""], ["x"], [], [⟨"(", ""⟩]⟩ : Selection).recipe 9).build =
        .ok (all first rest)) ∧
      (∃ inner, (⟨"1,-5-9", some .error, ⟨["1"], [], [], [⟨"5", "9"⟩]⟩⟩ : Query).text =
        "*[System[(" ++ inner ++ ")]]") ∧
      Nested '(' ')' 5 3
        (⟨"1,-5-9", some .error, ⟨["1"], [], [], [⟨"5", "9"⟩]⟩⟩ : Query).text.toList := by
  obtain ⟨texts, selections, queries⟩ := brackets_exact
  have unbracketed : (any (compare "Level" .eq (.int (-7))) [all everything []]).Unbracketed := by
    intro c mem
    obtain rfl := List.mem_singleton.1 mem
    exact ⟨by decide, by decide⟩
  have compiled : Query.ofLevel "1,-5-9" (.int 2) none =
      .ok ⟨"1,-5-9", some .error, ⟨["1"], [], [], [⟨"5", "9"⟩]⟩⟩ := rfl
  obtain ⟨first, rest, built, -⟩ := selections ⟨[""], ["x"], [], [⟨"(", ""⟩]⟩ 9
  obtain ⟨around, nested, -⟩ := queries _ _ _ _ compiled
  exact ⟨texts _ unbracketed, ⟨first, rest, built⟩, around, nested⟩

end Predicate
end EventFilter
