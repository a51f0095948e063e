import EventFilter.Predicate.Holds
import EventFilter.Predicate.Printer
import EventFilter.Proofs.Numeral
import EventFilter.Proofs.Outcome

/-! Canonical predicates. A predicate is told apart from its canonical form neither by its text nor
by any event: the text does not show of which kind a group with a single member is, nor whether
a comparison is with a number or with the text of one. -/
namespace EventFilter

open Outcome

structure Comparison where
  field : String
  relation : Relation
  operand : Operand

namespace Operand

/-- Texts are those of numerals. -/
def Plain : Operand → Prop
  | int _ | flag _ => True
  | text numeral => Text.IsNumeral numeral

/-- There are few enough digits for the number to be read from its text. -/
def Short : Operand → Prop
  | int n => (toString n.natAbs).length ≤ Text.maxDigits
  | text numeral => numeral.length ≤ Text.maxDigits
  | flag _ => True

/-- A number is written out. -/
def canonical : Operand → Operand
  | int n => text (toString n)
  | operand => operand

@[simp] theorem display_canonical (operand : Operand) :
    operand.canonical.display = operand.display := by
  cases operand <;> rfl

theorem toInt_canonical {operand : Operand} (short : operand.Short) :
    operand.canonical.toInt = operand.toInt := by
  cases operand with
  | int n => exact Numeral.read_toString short
  | text numeral => rfl
  | flag b => rfl

end Operand

def Comparison.canonical (c : Comparison) : Comparison := { c with operand := c.operand.canonical }

/-- The words that stand between the members of a group. -/
def Connective.joint : Connective → String
  | all => " and "
  | any => " or "

namespace Predicate

def group : Connective → Predicate → List Predicate → Predicate
  | .all, first, rest => all first rest
  | .any, first, rest => any first rest

mutual

/-- From left to right, groups within groups included. -/
def comparisons : Predicate → List Comparison
  | everything => []
  | compare field relation operand => [⟨field, relation, operand⟩]
  | all first rest | any first rest => first.comparisons ++ comparisonsOf rest

def comparisonsOf : List Predicate → List Comparison
  | [] => []
  | p :: ps => p.comparisons ++ comparisonsOf ps

end

/-- A group with a single member is one of the first kind. -/
def canonicalKind (kind : Connective) (rest : List Predicate) : Connective :=
  if rest.isEmpty then .all else kind

mutual

def canonical : Predicate → Predicate
  | everything => everything
  | compare field relation operand => compare field relation operand.canonical
  | all first rest => group (canonicalKind .all rest) first.canonical (canonicalList rest)
  | any first rest => group (canonicalKind .any rest) first.canonical (canonicalList rest)

def canonicalList : List Predicate → List Predicate
  | [] => []
  | p :: ps => p.canonical :: canonicalList ps

end

theorem canonical_group (kind : Connective) (first : Predicate) (rest : List Predicate) :
    (group kind first rest).canonical =
      group (canonicalKind kind rest) first.canonical (canonicalList rest) := by
  cases kind <;> rfl

theorem comparisons_group (kind : Connective) (first : Predicate) (rest : List Predicate) :
    (group kind first rest).comparisons = first.comparisons ++ comparisonsOf rest := by
  cases kind <;> rfl

theorem render_group (kind : Connective) (first : Predicate) (rest : List Predicate) :
    (group kind first rest).render =
      "(" ++ first.render ++ renderRest kind.joint rest ++ ")" := by
  cases kind <;> rfl

theorem eq_group (p : Predicate) : p = everything ∨
    (∃ field relation operand, p = compare field relation operand) ∨
      ∃ kind first rest, p = group kind first rest := by
  cases p with
  | everything => exact .inl rfl
  | compare field relation operand => exact .inr (.inl ⟨field, relation, operand, rfl⟩)
  | all first rest => exact .inr (.inr ⟨.all, first, rest, rfl⟩)
  | any first rest => exact .inr (.inr ⟨.any, first, rest, rfl⟩)

theorem holds_single (event : Event) (kind : Connective) (p : Predicate) :
    (group kind p []).holds event = p.holds event := by
  cases kind <;> simp only [group, holds, allHold, anyHolds] <;>
    (cases p.holds event with
    | error e => rfl
    | ok b => cases b <;> rfl)

mutual

theorem comparisons_canonical : ∀ p : Predicate,
    p.canonical.comparisons = p.comparisons.map Comparison.canonical
  | everything => rfl
  | compare field relation operand => rfl
  | all first rest | any first rest => by
    simp only [canonical, comparisons_group, comparisons, List.map_append,
      comparisons_canonical first, comparisonsOf_canonicalList rest]

theorem comparisonsOf_canonicalList : ∀ ps : List Predicate,
    comparisonsOf (canonicalList ps) = (comparisonsOf ps).map Comparison.canonical
  | [] => rfl
  | p :: ps => by
    simp only [canonicalList, comparisonsOf, List.map_append, comparisons_canonical p,
      comparisonsOf_canonicalList ps]

end

theorem canonical_all (first : Predicate) (rest : List Predicate) :
    (all first rest).canonical = all first.canonical (canonicalList rest) := by
  cases rest <;> rfl

mutual

theorem render_canonical : ∀ p : Predicate, p.canonical.render = p.render
  | everything => rfl
  | compare field relation operand => by simp only [canonical, render, Operand.display_canonical]
  | all first rest => by
    rw [canonical_all, render, render, render_canonical first, renderRest_canonicalList]
  | any first [] => by
    show (all first.canonical []).render = (any first []).render
    rw [render, render, render_canonical first]
    rfl
  | any first (second :: rest) => by
    show (any first.canonical (canonicalList (second :: rest))).render = _
    rw [render, render, render_canonical first, renderRest_canonicalList]

theorem renderRest_canonicalList (joint : String) : ∀ ps : List Predicate,
    renderRest joint (canonicalList ps) = renderRest joint ps
  | [] => rfl
  | p :: ps => by
    simp only [canonicalList, renderRest, render_canonical p, renderRest_canonicalList joint ps]

end

/-- Operands that are short enough to be read keep the value of every comparison. -/
abbrev Short (p : Predicate) : Prop := ∀ c ∈ p.comparisons, c.operand.Short

abbrev ShortList (ps : List Predicate) : Prop := ∀ c ∈ comparisonsOf ps, c.operand.Short

mutual

theorem holds_canonical (event : Event) : ∀ p : Predicate, p.Short →
    p.canonical.holds event = p.holds event
  | everything, _ => rfl
  | compare field relation operand, short => by
    have same := Operand.toInt_canonical (short _ List.mem_cons_self)
    simp only [canonical, holds, compareField, same]
  | all first rest, short => by
    obtain ⟨shortFirst, shortRest⟩ := List.forall_mem_append.1 short
    rw [canonical_all, holds, holds, holds_canonical event first shortFirst,
      allHold_canonicalList event rest shortRest]
  | any first [], short => by
    have shortFirst := (List.forall_mem_append.1 short).1
    exact (holds_single event .all first.canonical).trans
      ((holds_canonical event first shortFirst).trans (holds_single event .any first).symm)
  | any first (second :: rest), short => by
    obtain ⟨shortFirst, shortRest⟩ := List.forall_mem_append.1 short
    show (any first.canonical (canonicalList (second :: rest))).holds event = _
    rw [holds, holds, holds_canonical event first shortFirst,
      anyHolds_canonicalList event (second :: rest) shortRest]

theorem allHold_canonicalList (event : Event) : ∀ ps : List Predicate, ShortList ps →
    allHold event (canonicalList ps) = allHold event ps
  | [], _ => rfl
  | p :: ps, short => by
    obtain ⟨shortFirst, shortRest⟩ := List.forall_mem_append.1 short
    rw [canonicalList, allHold, allHold, holds_canonical event p shortFirst,
      allHold_canonicalList event ps shortRest]

theorem anyHolds_canonicalList (event : Event) : ∀ ps : List Predicate, ShortList ps →
    anyHolds event (canonicalList ps) = anyHolds event ps
  | [], _ => rfl
  | p :: ps, short => by
    obtain ⟨shortFirst, shortRest⟩ := List.forall_mem_append.1 short
    rw [canonicalList, anyHolds, anyHolds, holds_canonical event p shortFirst,
      anyHolds_canonicalList event ps shortRest]

end

end Predicate
end EventFilter
