import EventFilter.Predicate.Holds
import EventFilter.Proofs.Numeral
import EventFilter.Proofs.Outcome

/-! Predicates on one field. If every comparison is of the same field and with a number that can
be read, then only the field decides: its absence fails the predicate, its fault is the answer, and
its number is put to a test that needs no order of evaluation. -/
namespace EventFilter

open Outcome

/-- A number to compare with. -/
def Operand.value : Operand → Int
  | int n => n
  | text numeral => Text.value numeral
  | flag b => b.toInt

namespace Predicate

mutual

/-- Compares nothing but the field, and with readable numbers alone. -/
def On (field : String) : Predicate → Prop
  | everything => False
  | compare other _ operand => other = field ∧ operand.toInt = .ok operand.value
  | all first rest | any first rest => first.On field ∧ OnList field rest

def OnList (field : String) : List Predicate → Prop
  | [] => True
  | p :: ps => p.On field ∧ OnList field ps

end

mutual

/-- What the predicate says of a number in place of its fields. -/
def truth (n : Int) : Predicate → Bool
  | everything => true
  | compare _ relation operand => relation.holds n operand.value
  | all first rest => first.truth n && allTrue n rest
  | any first rest => first.truth n || anyTrue n rest

def allTrue (n : Int) : List Predicate → Bool
  | [] => true
  | p :: ps => p.truth n && allTrue n ps

def anyTrue (n : Int) : List Predicate → Bool
  | [] => false
  | p :: ps => p.truth n || anyTrue n ps

end

theorem onList_iff {field : String} {ps : List Predicate} :
    OnList field ps ↔ ∀ p ∈ ps, p.On field := by
  induction ps with
  | nil => simp [OnList]
  | cons p ps ih => simp [OnList, ih]

theorem allTrue_eq (n : Int) (ps : List Predicate) : allTrue n ps = ps.all (truth n) := by
  induction ps with
  | nil => rfl
  | cons p ps ih => rw [allTrue, ih, List.all_cons]

theorem anyTrue_eq (n : Int) (ps : List Predicate) : anyTrue n ps = ps.any (truth n) := by
  induction ps with
  | nil => rfl
  | cons p ps ih => rw [anyTrue, ih, List.any_cons]

section

variable {event : Event} {field : String}

mutual

theorem holds_absent (absent : event.present field = none) : ∀ p : Predicate, p.On field →
    p.holds event = .ok false
  | compare other relation operand, ⟨same, _⟩ => by
    rw [holds, compareField, same, absent]
  | all first rest, ⟨onFirst, _⟩ => by
    rw [holds, holds_absent absent first onFirst]
    rfl
  | any first rest, ⟨onFirst, onRest⟩ => by
    rw [holds, holds_absent absent first onFirst]
    exact anyHolds_absent absent rest onRest

theorem anyHolds_absent (absent : event.present field = none) : ∀ ps : List Predicate,
    OnList field ps → anyHolds event ps = .ok false
  | [], _ => rfl
  | p :: ps, ⟨onFirst, onRest⟩ => by
    rw [anyHolds, holds_absent absent p onFirst]
    exact anyHolds_absent absent ps onRest

end

variable {v : Json}

/-- The first comparison is always made, and it reads the field. -/
theorem holds_unreadable {e : IntegerError} (present : event.present field = some v)
    (fault : v.toInt = .error e) : ∀ p : Predicate, p.On field → p.holds event = .error e
  | compare other relation operand, ⟨same, _⟩ => by
    rw [holds, compareField, same, present]
    simp only [fault, error_bind]
  | all first rest, ⟨onFirst, _⟩ => by
    rw [holds, holds_unreadable present fault first onFirst, error_bind]
  | any first rest, ⟨onFirst, _⟩ => by
    rw [holds, holds_unreadable present fault first onFirst, error_bind]

variable {n : Int}

mutual

theorem holds_readable (present : event.present field = some v) (read : v.toInt = .ok n) :
    ∀ p : Predicate, p.On field → p.holds event = .ok (p.truth n)
  | compare other relation operand, ⟨same, readable⟩ => by
    rw [holds, compareField, same, present]
    simp only [read, readable, ok_bind]
    rfl
  | all first rest, ⟨onFirst, onRest⟩ => by
    rw [holds, holds_readable present read first onFirst, ok_bind, truth,
      allHold_readable present read rest onRest]
    cases first.truth n <;> rfl
  | any first rest, ⟨onFirst, onRest⟩ => by
    rw [holds, holds_readable present read first onFirst, ok_bind, truth,
      anyHolds_readable present read rest onRest]
    cases first.truth n <;> rfl

theorem allHold_readable (present : event.present field = some v) (read : v.toInt = .ok n) :
    ∀ ps : List Predicate, OnList field ps → allHold event ps = .ok (allTrue n ps)
  | [], _ => rfl
  | p :: ps, ⟨onFirst, onRest⟩ => by
    rw [allHold, holds_readable present read p onFirst, ok_bind, allTrue,
      allHold_readable present read ps onRest]
    cases p.truth n <;> rfl

theorem anyHolds_readable (present : event.present field = some v) (read : v.toInt = .ok n) :
    ∀ ps : List Predicate, OnList field ps → anyHolds event ps = .ok (anyTrue n ps)
  | [], _ => rfl
  | p :: ps, ⟨onFirst, onRest⟩ => by
    rw [anyHolds, holds_readable present read p onFirst, ok_bind, anyTrue,
      anyHolds_readable present read ps onRest]
    cases p.truth n <;> rfl

end

end

/-- A field that is there is read, and its number judged. -/
def judge (event : Event) (field : String) (test : Int → Bool) : Except IntegerError Bool :=
  match event.present field with
  | none => .ok false
  | some v => v.toInt.map test

theorem judge_present {event : Event} {field : String} {v : Json}
    (present : event.present field = some v) (test : Int → Bool) :
    judge event field test = v.toInt.map test := by
  rw [judge, present]

theorem holds_eq_judge (event : Event) {field : String} {p : Predicate} (on : p.On field) :
    p.holds event = judge event field fun n => p.truth n := by
  cases present : event.present field with
  | none => rw [judge, present, holds_absent present p on]
  | some v =>
    rw [judge_present present]
    cases read : v.toInt with
    | error e => exact holds_unreadable present read p on
    | ok n => exact holds_readable present read p on

end Predicate
end EventFilter
