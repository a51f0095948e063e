import EventFilter.Proofs.Alias
import EventFilter.Proofs.Settled

/-! The format that is chosen where a flag stands for the format JSON, and what becomes of it when
the flag is spelled out. The two agree but for a few orders of the options, which are told apart
exactly. -/
namespace EventFilter

open Outcome

namespace Cli

namespace Alias

variable {κ : Type} {v : Vocabulary κ} {a : Alias v}

theorem key_ne_flag : a.key ≠ a.flag := ne_flag a.takes

variable [DecidableEq κ] (a) (options : List (κ × String))

def sets (key : κ) : Bool := key = a.flag || key = a.key

/-- The options that choose a format, in either spelling. -/
def given : List (κ × String) := options.filter (a.sets ·.1)

def flagged : Bool := options.any (·.1 = a.flag)

/-- The format that is named last, or that no format is called so. -/
def named : Option (Option Format) :=
  (lastGiven a.key options).map fun text => (readFormat text).toOption

def startsBare : Bool := (a.given options).head?.any (·.1 = a.flag)

def endsBare : Bool := (a.given options).getLast?.any (·.1 = a.flag)

/-- The format after these options. The flag may win over the format that is named last. -/
def format (wins : Bool) (before : Format) : Option Format :=
  match a.named options with
  | none => some (if a.flagged options then .json else before)
  | some named => named.map fun format => if a.flagged options && wins then .json else format

variable {a options}

theorem flagged_eq : a.flagged options = (lastGiven a.flag options).isSome :=
  (isSome_lastGiven a.flag options).symm

theorem filter_given (p q : κ → Bool) (same : ∀ key, (p key && a.sets key) = q key) :
    (a.given options).filter (p ·.1) = options.filter (q ·.1) := by
  rw [given, List.filter_filter]
  exact List.filter_congr fun option _ => same option.1

theorem names_given :
    (a.given options).filter (·.1 = a.key) = options.filter (·.1 = a.key) :=
  filter_given (· = a.key) (· = a.key) fun key => by
    by_cases same : key = a.key <;> simp [same, sets]

/-- Both spellings settle in the order in which they first stand. -/
theorem settle_given : settle (a.given options) =
    if a.startsBare options then
      ((lastGiven a.flag options).map (a.flag, ·)).toList ++
        ((lastGiven a.key options).map (a.key, ·)).toList
    else
      ((lastGiven a.key options).map (a.key, ·)).toList ++
        ((lastGiven a.flag options).map (a.flag, ·)).toList := by
  have flags : (a.given options).filter (·.1 = a.flag) = options.filter (·.1 = a.flag) :=
    filter_given (· = a.flag) (· = a.flag) fun key => by
      by_cases same : key = a.flag <;> simp [same, sets]
  have names : (a.given options).filter (·.1 = a.key) = options.filter (·.1 = a.key) := names_given
  have noFlags : (a.given options).filter (·.1 ≠ a.flag) = options.filter (·.1 = a.key) :=
    filter_given (· ≠ a.flag) (· = a.key) fun key => by
      by_cases same : key = a.flag <;> simp [same, sets, key_ne_flag.symm]
  have noNames : (a.given options).filter (·.1 ≠ a.key) = options.filter (·.1 = a.flag) :=
    filter_given (· ≠ a.key) (· = a.flag) fun key => by
      by_cases same : key = a.key <;> simp [same, sets, key_ne_flag]
  have flags_only : ∀ option ∈ options.filter (·.1 = a.flag), option.1 = a.flag := by simp
  have names_only : ∀ option ∈ options.filter (·.1 = a.key), option.1 = a.key := by simp
  unfold startsBare
  rw [← getLast?_filter_key, ← getLast?_filter_key]
  cases list : a.given options with
  | nil =>
    rw [list] at flags names
    rw [← flags, ← names]
    rfl
  | cons option others =>
    -- What is left once the first name is taken away are the options of the other.
    obtain ⟨key, value⟩ := option
    have known : a.sets key = true :=
      (List.mem_filter.1 (list ▸ List.mem_cons_self : (key, value) ∈ a.given options)).2
    rw [list] at flags names noFlags noNames
    rcases Bool.or_eq_true_iff.1 known with flag | named
    · obtain rfl : key = a.flag := of_decide_eq_true flag
      rw [settle_first, flags, noFlags, settle_one names_only]
      simp
    · obtain rfl : key = a.key := of_decide_eq_true named
      rw [settle_first, names, noNames, settle_one flags_only]
      simp [key_ne_flag]

/-- What an option makes of the format: a name replaces it, and the flag does this to it. -/
def pick (a : Alias v) (flag : Format → Format) (before : Format) (option : κ × String) :
    Except UsageError Format :=
  if option.1 = a.flag then .ok (flag before) else readFormat option.2

theorem pick_flag (flag : Format → Format) (before : Format) (value : String) :
    a.pick flag before (a.flag, value) = .ok (flag before) := if_pos rfl

theorem pick_key (flag : Format → Format) (before : Format) (value : String) :
    a.pick flag before (a.key, value) = readFormat value := if_neg key_ne_flag

/-- The format after the options are settled. Where the flag stands first, a name replaces what it
did. -/
def settled (a : Alias v) (options : List (κ × String)) (flag : Format → Format)
    (before : Format) : Option Format :=
  match a.named options with
  | none => some (if a.flagged options then flag before else before)
  | some named => named.map fun format =>
    if a.flagged options && !a.startsBare options then flag format else format

theorem foldlM_pick (flag : Format → Format) (before : Format) :
    ((settle (a.given options)).foldlM (a.pick flag) before).toOption =
      a.settled options flag before := by
  rw [settle_given, settled, flagged_eq, named]
  cases lastGiven a.key options with
  | none =>
    cases lastGiven a.flag options with
    | none =>
      simp only [Option.map_none, Option.toList_none, List.append_nil, ite_self]
      rfl
    | some value =>
      simp only [Option.map_some, Option.map_none, Option.toList_some, Option.toList_none,
        List.append_nil, List.nil_append, ite_self, List.foldlM_cons, pick_flag, ok_bind]
      rfl
  | some text =>
    cases lastGiven a.flag options with
    | none =>
      simp only [Option.map_some, Option.map_none, Option.toList_some, Option.toList_none,
        List.append_nil, List.nil_append, ite_self, List.foldlM_cons, pick_key]
      cases readFormat text <;> rfl
    | some value =>
      simp only [Option.map_some, Option.toList_some]
      cases a.startsBare options with
      | true =>
        simp only [if_true, List.cons_append, List.nil_append, List.foldlM_cons, pick_flag,
          pick_key, ok_bind]
        cases readFormat text <;> rfl
      | false =>
        simp only [Bool.false_eq_true, if_false, List.cons_append, List.nil_append,
          List.foldlM_cons, pick_key, pick_flag]
        cases readFormat text <;> rfl

/-- Options that choose a format, and others that have nothing to do with it. -/
theorem foldlM_settle {σ : Type} {step : σ → κ × String → Except UsageError σ}
    {put : σ → Format → σ} {flag : Format → Format}
    (chosen : ∀ s format option, a.sets option.1 = true →
      step (put s format) option = (a.pick flag format option).map (put s))
    (others : ∀ s format option, a.sets option.1 = false →
      step (put s format) option = (step s option).map (put · format))
    (options : List (κ × String)) (s : σ) (before : Format) :
    ((settle options).foldlM step (put s before)).toOption =
      ((settle (options.filter (!a.sets ·.1))).foldlM step s).toOption.bind fun s =>
        (a.settled options flag before).map (put s) := by
  have own : (settle options).filter (a.sets ·.1) = settle (a.given options) :=
    (settle_filter a.sets options).symm
  have rest : (settle options).filter (!a.sets ·.1) = settle (options.filter (!a.sets ·.1)) :=
    (settle_filter (!a.sets ·) options).symm
  rw [foldlM_apart (a.sets ·.1) chosen others, own, rest, foldlM_pick]

theorem key_spellOut (option : κ × String) :
    (a.spellOut option).1 = if option.1 = a.flag then a.key else option.1 := by
  unfold spellOut
  split <;> rfl

theorem sets_spellOut (option : κ × String) :
    a.sets (a.spellOut option).1 = a.sets option.1 := by
  rw [key_spellOut]
  split
  · next flag => simp [sets, flag]
  · rfl

theorem spellOut_eq_iff {key : κ} (other : a.sets key = false) (option : κ × String) :
    (a.spellOut option).1 = key ↔ option.1 = key := by
  rw [key_spellOut]
  split
  · next flag =>
    simp only [sets, Bool.or_eq_false_iff, decide_eq_false_iff_not] at other
    exact iff_of_false (fun same => other.2 same.symm) fun same => other.1 (same.symm.trans flag)
  · rfl

section

variable {key : κ} (other : a.sets key = false)

include other

theorem any_spellOut :
    (options.map a.spellOut).any (·.1 = key) = options.any (·.1 = key) := by
  rw [List.any_map]
  simp only [Function.comp_def, spellOut_eq_iff other]

end

/-- What sets other things is left alone. -/
theorem filter_others_spellOut : (options.map a.spellOut).filter (!a.sets ·.1) =
    options.filter (!a.sets ·.1) := by
  rw [List.filter_map]
  have same : options.filter ((!a.sets ·.1) ∘ a.spellOut) = options.filter (!a.sets ·.1) :=
    List.filter_congr fun option _ => congrArg not (sets_spellOut option)
  rw [same]
  refine (List.map_congr_left fun option mem => ?_).trans (List.map_id _)
  have other := (List.mem_filter.1 mem).2
  have apart : option.1 ≠ a.flag := by
    rintro flag
    simp [sets, flag] at other
  exact spellOut_other apart option.2

/-- How the options that choose a format end: in the flag, in a name, or not at all. -/
inductive Ends (a : Alias v) (options : List (κ × String)) : Prop where
  | bare (value : String) (last : (a.given options).getLast? = some (a.flag, value))
      (ends : a.endsBare options = true) (flagged : a.flagged options = true)
  | named (text : String) (last : (a.given options).getLast? = some (a.key, text))
      (ends : a.endsBare options = false) (named : lastGiven a.key options = some text)
  | nothing (last : (a.given options).getLast? = none) (ends : a.endsBare options = false)
      (flagged : a.flagged options = false) (named : lastGiven a.key options = none)

theorem ends (a : Alias v) (options : List (κ × String)) : a.Ends options := by
  cases last : (a.given options).getLast? with
  | none =>
    have empty : a.given options = [] := List.getLast?_eq_none_iff.1 last
    refine .nothing last (by rw [endsBare, last]; rfl) ?_ ?_
    · rw [flagged, List.any_eq_false]
      intro option mem flag
      have other := List.filter_eq_nil_iff.1 empty option mem
      exact other (by simp [sets, of_decide_eq_true flag])
    · rw [lastGiven, ← names_given, empty]
      rfl
  | some option =>
    obtain ⟨key, value⟩ := option
    obtain ⟨front, list⟩ := List.getLast?_eq_some_iff.1 last
    have mem : (key, value) ∈ a.given options := List.mem_of_getLast? last
    obtain ⟨inside, known⟩ := List.mem_filter.1 mem
    by_cases flag : key = a.flag
    · subst flag
      refine .bare value last (by simp [endsBare, last]) ?_
      rw [flagged, List.any_eq_true]
      exact ⟨_, inside, decide_eq_true rfl⟩
    · obtain rfl : key = a.key := by simpa [sets, flag] using known
      refine .named value last (by simp [endsBare, last, flag]) ?_
      have kept : [(a.key, value)].filter (·.1 = a.key) = [(a.key, value)] :=
        List.filter_cons_of_pos (decide_eq_true rfl)
      rw [lastGiven, ← names_given, list, List.filter_append, kept, List.getLast?_concat]
      rfl

section

variable (a : Alias v) (options : List (κ × String)) (json : a.value = "json")
  (wins wins' : Bool) (before : Format)

include json

end

end Alias
end Cli
end EventFilter
