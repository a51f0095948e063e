import EventFilter.Proofs.Canonical
import EventFilter.Proofs.OneField
import EventFilter.Query.Build

/-! The parts of a predicate. Whatever shape a part is given, it is absent only if nothing goes into
it, and it holds the comparisons of what does; what is included and what is excluded are built in
the same way, with the one connective or the other. -/
namespace EventFilter

open Predicate

namespace Connective

/-- A group of what there is, unless that stands alone. -/
def join (kind : Connective) : List Predicate → Option Predicate
  | [] => none
  | [p] => some p
  | p :: ps => some (group kind p ps)

/-- A group of what there is, also of one that stands alone. -/
def gather (kind : Connective) : List Predicate → Option Predicate
  | [] => none
  | p :: ps => some (group kind p ps)

/-- One half of a predicate: the IDs in a group of their own, then the spans. -/
def half (kind : Connective) (ids spans : List Predicate) : Option Predicate :=
  kind.join ((kind.gather ids).toList ++ (kind.join spans).toList)

def op : Connective → Bool → Bool → Bool
  | .all, a, b => a && b
  | .any, a, b => a || b

/-- A test of a whole group. -/
def test (kind : Connective) (f : Predicate → Bool) (ps : List Predicate) : Bool :=
  match kind with
  | .all => ps.all f
  | .any => ps.any f

theorem test_single (kind : Connective) (f : Predicate → Bool) (p : Predicate) :
    kind.test f [p] = f p := by
  cases kind with
  | all => exact Bool.and_true _
  | any => exact Bool.or_false _

theorem test_append (kind : Connective) (f : Predicate → Bool) (ps qs : List Predicate) :
    kind.test f (ps ++ qs) = kind.op (kind.test f ps) (kind.test f qs) := by
  cases kind with
  | all => exact List.all_append
  | any => exact List.any_append

variable (kind : Connective) (ps qs : List Predicate)

theorem join_cases : (∃ p, ps = [p] ∧ kind.join ps = some p) ∨ kind.join ps = kind.gather ps := by
  match ps with
  | [] => exact .inr rfl
  | [p] => exact .inl ⟨p, rfl, rfl⟩
  | p :: q :: ps => exact .inr rfl

theorem gather_eq_none : kind.gather ps = none ↔ ps = [] := by
  cases ps <;> simp [gather]

theorem join_eq_none : kind.join ps = none ↔ ps = [] := by
  rcases join_cases kind ps with ⟨p, rfl, joined⟩ | joined
  · simp [joined]
  · rw [joined, gather_eq_none]

theorem half_eq_none : kind.half ps qs = none ↔ ps = [] ∧ qs = [] := by
  rw [half, join_eq_none, List.append_eq_nil_iff, Option.toList_eq_nil_iff,
    Option.toList_eq_nil_iff, gather_eq_none, join_eq_none]

end Connective

namespace Predicate

theorem comparisonsOf_eq (ps : List Predicate) : comparisonsOf ps = ps.flatMap comparisons := by
  induction ps with
  | nil => rfl
  | cons p ps ih => rw [comparisonsOf, ih, List.flatMap_cons]

theorem comparisonsOf_append (ps qs : List Predicate) :
    comparisonsOf (ps ++ qs) = comparisonsOf ps ++ comparisonsOf qs := by
  simp [comparisonsOf_eq]

theorem comparisonsOf_single (p : Predicate) : comparisonsOf [p] = p.comparisons :=
  List.append_nil _

section

variable (kind : Connective) (ps qs : List Predicate)

theorem comparisonsOf_gather : comparisonsOf (kind.gather ps).toList = comparisonsOf ps := by
  cases ps with
  | nil => rfl
  | cons p ps => exact (comparisonsOf_single _).trans (comparisons_group kind p ps)

theorem comparisonsOf_join : comparisonsOf (kind.join ps).toList = comparisonsOf ps := by
  rcases kind.join_cases ps with ⟨p, rfl, joined⟩ | joined
  · rw [joined, Option.toList_some]
  · rw [joined, comparisonsOf_gather]

theorem comparisonsOf_half :
    comparisonsOf (kind.half ps qs).toList = comparisonsOf ps ++ comparisonsOf qs := by
  rw [Connective.half, comparisonsOf_join, comparisonsOf_append, comparisonsOf_gather,
    comparisonsOf_join]

theorem truth_group (n : Int) (p : Predicate) :
    (group kind p ps).truth n = kind.test (truth n) (p :: ps) := by
  cases kind with
  | all => rw [group, truth, allTrue_eq, Connective.test, List.all_cons]
  | any => rw [group, truth, anyTrue_eq, Connective.test, List.any_cons]

theorem test_gather (n : Int) :
    kind.test (truth n) (kind.gather ps).toList = kind.test (truth n) ps := by
  cases ps with
  | nil => rfl
  | cons p ps => exact (kind.test_single (truth n) _).trans (truth_group kind ps n p)

theorem test_join (n : Int) :
    kind.test (truth n) (kind.join ps).toList = kind.test (truth n) ps := by
  rcases kind.join_cases ps with ⟨p, rfl, joined⟩ | joined
  · rw [joined, Option.toList_some]
  · rw [joined, test_gather]

theorem test_half (n : Int) :
    kind.test (truth n) (kind.half ps qs).toList = kind.test (truth n) (ps ++ qs) := by
  rw [Connective.half, test_join, Connective.test_append, test_gather, test_join,
    Connective.test_append]

end

section

variable {kind : Connective} {ps qs : List Predicate} {field : String}

theorem on_group {p : Predicate} :
    (group kind p ps).On field ↔ ∀ q ∈ p :: ps, q.On field := by
  cases kind <;> simp [group, On, onList_iff]

theorem on_gather (on : ∀ p ∈ ps, p.On field) : ∀ p ∈ kind.gather ps, p.On field := by
  cases ps with
  | nil => simp [Connective.gather]
  | cons p ps =>
    rintro _ ⟨⟩
    exact on_group.2 on

theorem on_join (on : ∀ p ∈ ps, p.On field) : ∀ p ∈ kind.join ps, p.On field := by
  rcases kind.join_cases ps with ⟨p, rfl, joined⟩ | joined
  · simpa [joined] using on
  · rw [joined]
    exact on_gather on

theorem on_half (onIds : ∀ p ∈ ps, p.On field) (onSpans : ∀ p ∈ qs, p.On field) :
    ∀ p ∈ kind.half ps qs, p.On field := by
  apply on_join
  rw [List.forall_mem_append]
  simp only [Option.mem_toList]
  exact ⟨on_gather onIds, on_join onSpans⟩

end

end Predicate

namespace Selection

def compareId (relation : Relation) (id : String) : Predicate :=
  .compare idField relation (.text id)

def betweenBounds (span : Span) : Predicate :=
  .between idField (.text span.first) (.text span.last)

def outsideBounds (span : Span) : Predicate :=
  .outside idField (.text span.first) (.text span.last)

theorem joinAny_eq (ps : List Predicate) : joinAny ps = Connective.any.join ps := by
  match ps with
  | [] => rfl
  | [p] => rfl
  | p :: q :: ps => rfl

theorem joinAll_eq (ps : List Predicate) : joinAll ps = Connective.all.join ps := by
  match ps with
  | [] => rfl
  | [p] => rfl
  | p :: q :: ps => rfl

variable (s : Selection)

theorem includedHalf_eq : s.includedHalf = Connective.any.half
    (s.includedIds.map (compareId .eq)) (s.includedSpans.map betweenBounds) := by
  rw [includedHalf, joinAny_eq, includedSpansPart, joinAny_eq, Connective.half, includedIdsPart]
  cases s.includedIds <;> rfl

theorem excludedHalf_eq : s.excludedHalf = Connective.all.half
    (s.excludedIds.map (compareId .ne)) (s.excludedSpans.map outsideBounds) := by
  rw [excludedHalf, joinAll_eq, excludedSpansPart, joinAll_eq, Connective.half, excludedIdsPart]
  cases s.excludedIds <;> rfl

theorem events_eq :
    s.events = Connective.all.gather (s.includedHalf.toList ++ s.excludedHalf.toList) := by
  unfold events
  cases s.includedHalf.toList ++ s.excludedHalf.toList <;> rfl

end Selection
end EventFilter
