import EventFilter.Proofs.CommandLine
import EventFilter.Proofs.Numeral
import Mathlib.Data.List.Nodup

/-! Options that describe an event. They stand anywhere among the options that say how the filter is
read, and neither kind has anything to do with the other: a number is read for each field of the
event, and what is chosen besides is what would be chosen without an event. -/
namespace EventFilter

open Outcome

namespace Cli

def Key.isEvent (key : Key) : Bool := key = .eventId || key = .eventLevel

namespace Choices

/-- The same choices about an event with these fields. -/
def about (choices : Choices) (id severity : Option Int) : Choices :=
  { choices with eventId := id, eventLevel := severity }

section

variable (choices : Choices) (id severity : Option Int)

/-- An option that is not about the event does not look at it, and leaves it alone. -/
theorem choose_about {option : Key × String} (other : option.1.isEvent = false) :
    (choices.about id severity).choose option =
      (choices.choose option).map (·.about id severity) := by
  obtain ⟨key, text⟩ := option
  cases key with
  | eventId | eventLevel => contradiction
  | level =>
    simp only [choose]
    cases readInteger "--level" severities text <;> rfl
  | output =>
    simp only [choose]
    cases readFormat text <;> rfl
  | noLabel | label | critical | errors | warnings | json | help => rfl

theorem choose_eventId {text : String} {n : Option Int}
    (read : (readInteger "--event-id" naturals text).map some = .ok n) :
    (choices.about id severity).choose (.eventId, text) = .ok (choices.about n severity) := by
  obtain ⟨value, within, rfl⟩ := map_eq_ok.1 read
  rw [choose, within]
  rfl

theorem choose_eventLevel {text : String} {n : Option Int}
    (read : (readInteger "--event-level" naturals text).map some = .ok n) :
    (choices.about id severity).choose (.eventLevel, text) = .ok (choices.about id n) := by
  obtain ⟨value, within, rfl⟩ := map_eq_ok.1 read
  rw [choose, within]
  rfl

end

/-- Options about the event are read on their own, wherever they stand. -/
theorem foldlM_about {options : List (Key × String)} {start chosen : Choices}
    {id severity : Option Int}
    (others : (options.filter (!·.1.isEvent)).foldlM choose start = .ok chosen)
    (ids : ∀ text, (Key.eventId, text) ∈ options →
      (readInteger "--event-id" naturals text).map some = .ok id)
    (severities : ∀ text, (Key.eventLevel, text) ∈ options →
      (readInteger "--event-level" naturals text).map some = .ok severity)
    (a b : Option Int) : options.foldlM choose (start.about a b) =
      .ok (chosen.about (if .eventId ∈ options.map (·.1) then id else a)
        (if .eventLevel ∈ options.map (·.1) then severity else b)) := by
  induction options generalizing start a b with
  | nil =>
    cases others
    rfl
  | cons option options ih =>
    obtain ⟨key, text⟩ := option
    have later := fun text mem => ids text (List.mem_cons_of_mem _ mem)
    have later' := fun text mem => severities text (List.mem_cons_of_mem _ mem)
    rw [List.foldlM_cons, List.map_cons]
    cases other : key.isEvent with
    | false =>
      rw [List.filter_cons_of_pos (by simpa using other), List.foldlM_cons] at others
      obtain ⟨next, chosen, others⟩ := bind_eq_ok.1 others
      have idle : Key.eventId ≠ key ∧ Key.eventLevel ≠ key := by
        constructor <;> rintro rfl <;> contradiction
      have step : (start.about a b).choose (key, text) = .ok (next.about a b) := by
        rw [choose_about start a b other, chosen]
        rfl
      rw [step, ok_bind, ih others later later' a b]
      simp only [List.mem_cons, idle, false_or]
    | true =>
      rw [List.filter_cons_of_neg (by simpa using other)] at others
      rw [Key.isEvent, Bool.or_eq_true, decide_eq_true_iff, decide_eq_true_iff] at other
      rcases other with rfl | rfl
      · rw [choose_eventId start a b (ids text List.mem_cons_self), ok_bind,
          ih others later later' id b]
        simp only [List.mem_cons, reduceCtorEq, false_or, true_or, if_true, ite_self]
      · rw [choose_eventLevel start a b (severities text List.mem_cons_self), ok_bind,
          ih others later later' a severity]
        simp only [List.mem_cons, reduceCtorEq, false_or, true_or, if_true, ite_self]

end Choices

variable {options : List (Key × String)} {key : Key} {number : Option Nat} {format : Format}
  {tokens : List String} {id : Nat} {severity : Option Nat} {choices : Choices}

/-- The value that counts for the option is this number, written in decimal with few enough digits
to be read. Without a number the option is not given. -/
def Gives (options : List (Key × String)) (key : Key) : Option Nat → Prop
  | none => key ∉ options.map (·.1)
  | some n => ∃ digits, (key, digits) ∈ settle options ∧ Text.IsNumeral digits ∧
      digits.length ≤ Text.maxDigits ∧ Text.value digits = n

theorem Gives.mem_iff (given : Gives options key number) :
    key ∈ (settle options).map (·.1) ↔ number.isSome = true := by
  cases number with
  | none => exact iff_of_false (mt mem_keys_settle.1 given) Bool.false_ne_true
  | some n =>
    obtain ⟨digits, mem, -⟩ := given
    simpa using ⟨digits, mem⟩

/-- Whatever value is settled on for the option is read as the number. -/
theorem Gives.read (given : Gives options key number) (option : String) {text : String}
    (mem : (key, text) ∈ settle options) :
    (readInteger option naturals text).map some = .ok (number.map Int.ofNat) := by
  cases number with
  | none =>
    have absent := (not_congr mem_keys_settle).2 given
    exact absurd (List.mem_map_of_mem mem) absent
  | some n =>
    obtain ⟨digits, mem', numeral, short, rfl⟩ := given
    have same : (key, text) = (key, digits) :=
      List.inj_on_of_nodup_map (nodup_keys_settle options) mem mem' rfl
    have within : naturals.contains (Text.value digits : Int) = true := by
      simp [Interval.contains, naturals]
    rw [(Prod.mk.inj same).2, readInteger, Numeral.read_of_isNumeral numeral short]
    simp only [within]
    rfl

theorem Gives.short {n : Nat} (given : Gives options key (some n)) :
    (toString n).length ≤ Text.maxDigits := by
  obtain ⟨digits, -, numeral, short, rfl⟩ := given
  exact Text.length_value_le numeral short

/-- The event that is described by these numbers. -/
def eventOf (id : Nat) (severity : Option Nat) : Event :=
  (idField, .int id) :: (severity.map fun n => (severityField, Json.int n)).toList

theorem event_about (choices : Choices) (id : Nat) (severity : Option Nat) :
    Call.event (choices.about (some id) (severity.map Int.ofNat)) = eventOf id severity := by
  cases severity <;> rfl

/-- Options that ask about an event of this ID and of this severity, or of none, and that make these
choices besides. -/
structure AsksAbout (format : Format) (options : List (Key × String)) (id : Nat)
    (severity : Option Nat) (choices : Choices) : Prop where
  unhelped : ∀ option ∈ options, option.1 ≠ .help
  id : Gives options .eventId (some id)
  severity : Gives options .eventLevel severity
  chosen : ((settle options).filter (!·.1.isEvent)).foldlM Choices.choose { format } = .ok choices

theorem AsksAbout.chooses (asks : AsksAbout format options id severity choices)
    (spelled : Command.judge.vocabulary.Spells options tokens) :
    Chooses .judge format tokens (choices.about (some id) (severity.map Int.ofNat)) := by
  refine ⟨options, spelled, asks.unhelped, ?_⟩
  have folded := Choices.foldlM_about asks.chosen (fun _ => asks.id.read "--event-id")
    (fun _ => asks.severity.read "--event-level") none none
  have severity : (if severity.isSome = true then severity.map Int.ofNat else none) =
      severity.map Int.ofNat := by
    cases severity <;> rfl
  simp only [asks.id.mem_iff, asks.severity.mem_iff, severity] at folded
  exact folded

theorem AsksAbout.limit (asks : AsksAbout format options id severity choices)
    (spelled : Command.judge.vocabulary.Spells options tokens) :
    ∃ limit, Severity.code limit = choices.threshold :=
  (asks.chooses spelled).limit

end Cli
end EventFilter
