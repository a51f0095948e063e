import EventFilter.Cli.Options
import EventFilter.Proofs.Outcome

/-! Options that were given more than once. Those with some of the names are settled among
themselves, and two names settle in the order in which they first stand. -/
namespace EventFilter

open Outcome

namespace Cli

variable {κ : Type} [DecidableEq κ]

theorem lastValue_filter {p : κ → Bool} {key : κ} (counts : p key = true) (value : String)
    (options : List (κ × String)) :
    lastValue key value (options.filter fun option => p option.1) =
      lastValue key value options := by
  rw [lastValue, List.foldl_filter, lastValue]
  congr 1
  funext value option
  by_cases same : option.1 = key
  · rw [if_pos (same ▸ counts)]
  · rw [if_neg same, ite_self]

theorem settle_filter (p : κ → Bool) (options : List (κ × String)) :
    settle (options.filter fun option => p option.1) =
      (settle options).filter fun option => p option.1 := by
  induction options with
  | nil => rfl
  | cons option options ih =>
    obtain ⟨key, value⟩ := option
    rw [settle, List.filter_cons, List.filter_cons]
    cases counts : p key with
    | true =>
      rw [if_pos rfl, if_pos rfl, settle, lastValue_filter counts, ih, List.filter_filter,
        List.filter_filter]
      simp only [Bool.and_comm]
    | false =>
      rw [if_neg Bool.false_ne_true, if_neg Bool.false_ne_true, ih, List.filter_filter]
      refine List.filter_congr fun option _ => ?_
      by_cases same : option.1 = key
      · simp [same, counts]
      · simp [same]

section

variable {key : κ} {options : List (κ × String)} (one : ∀ option ∈ options, option.1 = key)

include one

theorem lastValue_one (value : String) :
    (key, lastValue key value options) = options.getLast?.getD (key, value) := by
  induction options generalizing value with
  | nil => rfl
  | cons option options ih =>
    obtain ⟨same, later⟩ := List.forall_mem_cons.1 one
    obtain ⟨_, given⟩ := option
    obtain rfl : key = _ := same.symm
    rw [lastValue, List.foldl_cons, if_pos rfl, ← lastValue, ih later, List.getLast?_cons]
    rfl

/-- Of options with one name the last counts. -/
theorem settle_one : settle options = options.getLast?.toList := by
  cases options with
  | nil => rfl
  | cons option options =>
    obtain ⟨same, later⟩ := List.forall_mem_cons.1 one
    obtain ⟨_, value⟩ := option
    obtain rfl : key = _ := same.symm
    have none : (settle options).filter (·.1 ≠ key) = [] := by
      rw [List.filter_eq_nil_iff]
      intro option mem
      obtain ⟨given, inside, same⟩ :=
        List.mem_map.1 (mem_keys_settle.1 (List.mem_map_of_mem mem))
      simp [← same, later given inside]
    rw [settle, none, lastValue_one later, List.getLast?_cons]
    rfl

end

/-- The name that stands first settles first. -/
theorem settle_first (key : κ) (value : String) (options : List (κ × String)) :
    settle ((key, value) :: options) =
      (((key, value) :: options).filter (·.1 = key)).getLast?.toList ++
        settle (((key, value) :: options).filter (·.1 ≠ key)) := by
  have last := lastValue_filter (p := (· = key)) (decide_eq_true rfl) value options
  have others := settle_filter (· ≠ key) options
  have kept : ((key, value) :: options).filter (·.1 = key) =
      (key, value) :: options.filter (·.1 = key) := List.filter_cons_of_pos (decide_eq_true rfl)
  have dropped : ((key, value) :: options).filter (·.1 ≠ key) = options.filter (·.1 ≠ key) :=
    List.filter_cons_of_neg (by simp)
  rw [kept, dropped, others, List.getLast?_cons, ← lastValue_one (by simp), last, settle]
  rfl

/-- The value given last under a name. -/
def lastGiven (key : κ) (options : List (κ × String)) : Option String :=
  (options.filter (·.1 = key)).getLast?.map (·.2)

theorem getLast?_filter_key (key : κ) (options : List (κ × String)) :
    (options.filter (·.1 = key)).getLast? = (lastGiven key options).map (key, ·) := by
  rw [lastGiven, Option.map_map]
  cases last : (options.filter (·.1 = key)).getLast? with
  | none => rfl
  | some option =>
    obtain ⟨name, value⟩ := option
    obtain rfl : name = key :=
      of_decide_eq_true (List.mem_filter.1 (List.mem_of_getLast? last)).2
    rfl

theorem isSome_lastGiven (key : κ) (options : List (κ × String)) :
    (lastGiven key options).isSome = options.any (·.1 = key) := by
  rw [Bool.eq_iff_iff, lastGiven, Option.isSome_map, List.getLast?_isSome, List.any_eq_true]
  simp

end Cli
end EventFilter
