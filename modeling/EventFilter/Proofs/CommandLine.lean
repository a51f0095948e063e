import EventFilter.Cli.Program
import EventFilter.Proofs.Compiled

/-! Command lines that are read without a mistake. Options are spelled in several ways, with their
value in a token of its own or behind an equals sign, and letters in bundles; whatever the spelling
and whatever follows, they are read in their order. What stands behind a double hyphen is taken as
it is. -/
namespace EventFilter

open Outcome

namespace Cli

section

variable {name : String} (plain : '=' ∉ name.toList)

include plain

theorem splitValue_append (rest : List Char) :
    (name.toList ++ rest).takeWhile (· != '=') = name.toList ++ rest.takeWhile (· != '=') ∧
      (name.toList ++ rest).dropWhile (· != '=') = rest.dropWhile (· != '=') := by
  have kept : ∀ c ∈ name.toList, (c != '=') = true := by
    intro c mem
    rw [bne_iff_ne]
    rintro rfl
    exact plain mem
  exact ⟨List.takeWhile_append_of_pos kept, List.dropWhile_append_of_pos kept⟩

theorem splitValue_name : splitValue name = (name, none) := by
  have whole := (splitValue_append plain []).2
  rw [List.append_nil, List.dropWhile_nil] at whole
  simp only [splitValue, whole]

theorem splitValue_joined (value : String) :
    splitValue (name ++ "=" ++ value) = (name, some value) := by
  have chars : (name ++ "=" ++ value).toList = name.toList ++ '=' :: value.toList := by simp
  obtain ⟨front, behind⟩ := splitValue_append plain ('=' :: value.toList)
  rw [List.takeWhile_cons_of_neg (by decide), List.append_nil] at front
  rw [List.dropWhile_cons_of_neg (by decide)] at behind
  simp only [splitValue, chars, front, behind, String.ofList_toList]

end

namespace Vocabulary

variable {κ : Type} {v : Vocabulary κ}

/-- Names are told from values and from the end of the options, and none holds an equals sign. -/
def Regular (v : Vocabulary κ) : Prop :=
  ∀ entry ∈ v.names, isOption entry.1 = true ∧ '=' ∉ entry.1.toList ∧ entry.1 ≠ "--"

instance (v : Vocabulary κ) : Decidable v.Regular :=
  inferInstanceAs (Decidable (∀ entry ∈ v.names, _))

/-- Tokens that stand for these options, in this order. -/
inductive Spells (v : Vocabulary κ) : List (κ × String) → List String → Prop where
  | nil : Spells v [] []
  | flag (known : v.names.lookup name = some key) (bare : v.takesValue key = false)
      (others : Spells v options words) : Spells v ((key, "") :: options) (name :: words)
  | apart (known : v.names.lookup name = some key) (takes : v.takesValue key = true)
      (value : String) (others : Spells v options words) :
      Spells v ((key, value) :: options) (name :: value :: words)
  | joined (known : v.names.lookup name = some key) (takes : v.takesValue key = true)
      (value : String) (others : Spells v options words) :
      Spells v ((key, value) :: options) ((name ++ "=" ++ value) :: words)
  | bundle (single : c ≠ '-') (letters : v.bundle (c :: cs) = .ok (keys, []))
      (unknown : v.names.lookup (splitValue (String.ofList ('-' :: c :: cs))).1 = none)
      (others : Spells v options words) :
      Spells v (keys.map (·, "") ++ options) (String.ofList ('-' :: c :: cs) :: words)

theorem isOption_append {name : String} (named : isOption name = true) (text : String) :
    isOption (name ++ text) = true := by
  unfold isOption at named ⊢
  split at named
  · next chars => rw [String.toList_append, chars]; rfl
  · contradiction

theorem Regular.name (regular : v.Regular) {name : String} {key : κ}
    (known : v.names.lookup name = some key) :
    isOption name = true ∧ '=' ∉ name.toList ∧ name ≠ "--" := by
  have mem : (name, key) ∈ v.names := by
    obtain ⟨before, after, names, -⟩ := List.lookup_eq_some_iff.1 known
    rw [names]
    exact List.mem_append_cons_self
  exact regular (name, key) mem

theorem foldl_option (keys : List κ) (reading : Reading κ) :
    keys.foldl (fun reading key => reading.option key "") reading =
      ⟨reading.options ++ keys.map (·, ""), reading.arguments⟩ := by
  induction keys generalizing reading with
  | nil => simp
  | cons key keys ih =>
    rw [List.foldl_cons, ih, Reading.option, List.append_assoc, List.map_cons,
      List.singleton_append]

section

variable (regular : v.Regular) {name : String} {key : κ}
  (known : v.names.lookup name = some key) (reading : Reading κ) (rest : List String)

include regular known

theorem read_flag (bare : v.takesValue key = false) :
    v.read reading (name :: rest) = v.read (reading.option key "") rest := by
  obtain ⟨named, plain, inside⟩ := regular.name known
  rw [read, if_neg inside, if_pos named, splitValue_name plain]
  simp only [known, bare]
  rfl

theorem read_apart (takes : v.takesValue key = true) (value : String) :
    v.read reading (name :: value :: rest) = v.read (reading.option key value) rest := by
  obtain ⟨named, plain, inside⟩ := regular.name known
  rw [read, if_neg inside, if_pos named, splitValue_name plain]
  simp only [known, takes, if_true]

theorem read_joined (takes : v.takesValue key = true) (value : String) :
    v.read reading ((name ++ "=" ++ value) :: rest) =
      v.read (reading.option key value) rest := by
  obtain ⟨named, plain, -⟩ := regular.name known
  have inside : name ++ "=" ++ value ≠ "--" := by
    intro same
    have mem : '=' ∈ (name ++ "=" ++ value).toList := by simp
    rw [same] at mem
    exact absurd mem (by decide)
  have option : isOption (name ++ "=" ++ value) = true := by
    rw [String.append_assoc]
    exact isOption_append named _
  rw [read, if_neg inside, if_pos option, splitValue_joined plain]
  simp only [known, takes, if_true]

end

section

variable {c : Char} {cs : List Char} {keys : List κ} (single : c ≠ '-')
  (letters : v.bundle (c :: cs) = .ok (keys, [])) (reading : Reading κ)

include single letters

theorem readUnknown_bundle (name : String) :
    v.readUnknown (String.ofList ('-' :: c :: cs)) name reading =
      .ok ⟨reading.options ++ keys.map (·, ""), reading.arguments⟩ := by
  rw [readUnknown, String.toList_ofList]
  split
  · next same =>
    obtain ⟨rfl, -⟩ := List.cons.inj (List.cons.inj same).2
    contradiction
  · next same =>
    obtain ⟨-, rfl⟩ := List.cons.inj same
    rw [letters, ok_bind]
    exact congrArg Except.ok (foldl_option keys reading)
  · next same => contradiction

theorem read_bundle (rest : List String)
    (unknown : v.names.lookup (splitValue (String.ofList ('-' :: c :: cs))).1 = none) :
    v.read reading (String.ofList ('-' :: c :: cs) :: rest) =
      v.read ⟨reading.options ++ keys.map (·, ""), reading.arguments⟩ rest := by
  have inside : String.ofList ('-' :: c :: cs) ≠ "--" := by
    intro same
    have chars := congrArg String.toList same
    rw [String.toList_ofList] at chars
    exact single (List.cons.inj (List.cons.inj chars).2).1
  have named : isOption (String.ofList ('-' :: c :: cs)) = true := by
    rw [isOption, String.toList_ofList]
    rfl
  rw [read, if_neg inside, if_pos named]
  simp only [unknown, readUnknown_bundle single letters, ok_bind]

end

/-- Options are read in their order, whatever comes after them. -/
theorem read_spells (regular : v.Regular) {options : List (κ × String)} {tokens : List String}
    (spelled : v.Spells options tokens) (reading : Reading κ) (rest : List String) :
    v.read reading (tokens ++ rest) =
      v.read ⟨reading.options ++ options, reading.arguments⟩ rest := by
  induction spelled generalizing reading with
  | nil => rw [List.nil_append, List.append_nil]
  | flag known bare others ih =>
    rw [List.cons_append, read_flag regular known _ _ bare, ih, Reading.option,
      List.append_assoc, List.singleton_append]
  | apart known takes value others ih =>
    rw [List.cons_append, List.cons_append, read_apart regular known _ _ takes, ih,
      Reading.option, List.append_assoc, List.singleton_append]
  | joined known takes value others ih =>
    rw [List.cons_append, read_joined regular known _ _ takes, ih, Reading.option,
      List.append_assoc, List.singleton_append]
  | bundle single letters unknown others ih =>
    rw [List.cons_append, read_bundle single letters _ _ unknown, ih, List.append_assoc]

/-- Whatever comes after a double hyphen is an argument. -/
theorem read_arguments (reading : Reading κ) (arguments : List String) :
    v.read reading ("--" :: arguments) =
      .ok ⟨reading.options, reading.arguments ++ arguments⟩ := by
  rw [read, if_pos rfl]

/-- The first argument ends the options, unless more may follow it. -/
theorem read_command (ends : v.interspersed = false) {name : String}
    (argument : isOption name = false) (reading : Reading κ) (tokens : List String) :
    v.read reading (name :: tokens) =
      .ok ⟨reading.options, reading.arguments ++ name :: tokens⟩ := by
  have inside : name ≠ "--" := by
    rintro rfl
    contradiction
  rw [read, if_neg inside, argument, ends]
  rfl

end Vocabulary

theorem groupVocabulary_regular : groupVocabulary.Regular := by decide

theorem Command.vocabulary_regular (command : Command) : command.vocabulary.Regular := by
  cases command <;> decide

theorem Command.isOption_name (command : Command) : isOption command.name = false := by
  cases command <;> decide

variable {host : Host} {settings : Settings} {command : Command} {format : Format}
  {choices : Choices} {front tokens : List String}

/-- Options in front of the command that ask for these settings, and for nothing else. -/
def Opens (host : Host) (front : List String) (settings : Settings) : Prop :=
  ∃ options, groupVocabulary.Spells options front ∧
    (∀ option ∈ options, option.1 ≠ .version ∧ option.1 ≠ .help) ∧
    Settings.ofOptions host options = .ok settings

/-- Options of a command that make these choices, and do not ask for help. -/
def Chooses (command : Command) (format : Format) (tokens : List String) (choices : Choices) :
    Prop :=
  ∃ options, command.vocabulary.Spells options tokens ∧ (∀ option ∈ options, option.1 ≠ .help) ∧
    (settle options).foldlM Choices.choose { format } = .ok choices

theorem Opens.read (opens : Opens host front settings) (command : Command)
    (tokens : List String) : Opening.read host (front ++ command.name :: tokens) =
      .ok (.proceed settings (command.name :: tokens)) := by
  obtain ⟨options, spelled, plain, set⟩ := opens
  have asks : options.find? (fun option => option.1 = .version || option.1 = .help) = none := by
    rw [List.find?_eq_none]
    intro option mem
    simp [plain option mem]
  rw [Opening.read, Vocabulary.read_spells groupVocabulary_regular spelled,
    Vocabulary.read_command rfl command.isOption_name, ok_bind]
  simp only [Reading.empty, List.nil_append, asks, set, ok_bind]
  rfl

theorem Opens.run (opens : Opens host front settings) (command : Command)
    (tokens : List String) : Program.run host (front ++ command.name :: tokens) =
      Program.runCommand host settings command tokens := by
  simp only [Program.run, opens.read, Command.ofName?_name]

/-- The filter is read as it stands behind the double hyphen. -/
theorem Chooses.read (chooses : Chooses command format tokens choices)
    (takes : command ≠ .version) (complete : command.requireEvent choices = .ok ())
    (filter : String) : command.read format (tokens ++ ["--", filter]) =
      .ok (some ⟨command, choices, filter⟩) := by
  obtain ⟨options, spelled, plain, chosen⟩ := chooses
  have asks : options.any (·.1 = .help) = false := by
    rw [List.any_eq_false]
    intro option mem
    simp [plain option mem]
  have taken : command.filterOf [filter] = .ok (filter, []) := by
    cases command with
    | version => contradiction
    | compile => rfl
    | judge => rfl
  rw [Command.read, Vocabulary.read_spells command.vocabulary_regular spelled,
    Vocabulary.read_arguments, ok_bind]
  simp only [Reading.empty, List.nil_append, asks, chosen, taken, complete, ok_bind]
  rfl

theorem readInteger_eq_ok {option text : String} {interval : Interval} {n : Int}
    (read : readInteger option interval text = .ok n) : interval.contains n = true := by
  unfold readInteger at read
  split at read
  · contradiction
  · split at read
    · next within =>
      cases read
      exact within
    · contradiction

/-- A severity that is asked for by its number is one. -/
def Choices.Known (choices : Choices) : Prop :=
  ∀ n, choices.level = some n → 1 ≤ n ∧ n ≤ 5

theorem Choices.known_choose {chosen next : Choices} {option : Key × String}
    (known : chosen.Known) (step : chosen.choose option = .ok next) : next.Known := by
  obtain ⟨key, text⟩ := option
  cases key with
  | level =>
    obtain ⟨n, read, made⟩ := bind_eq_ok.1 step
    cases made
    rintro _ ⟨⟩
    simpa [Interval.contains, severities] using readInteger_eq_ok read
  | eventId | eventLevel | output =>
    obtain ⟨a, -, made⟩ := bind_eq_ok.1 step
    cases made
    exact known
  | noLabel | label | critical | errors | warnings | json | help =>
    cases step
    exact known

theorem Choices.code_threshold (known : choices.Known) :
    ∃ limit, Severity.code limit = choices.threshold := by
  obtain ⟨format, level, warnings, errors, critical⟩ := choices
  cases critical with
  | true => exact ⟨some .critical, rfl⟩
  | false =>
    cases errors with
    | true => exact ⟨some .error, rfl⟩
    | false =>
      cases warnings with
      | true => exact ⟨some .warning, rfl⟩
      | false =>
        cases level with
        | none => exact ⟨none, rfl⟩
        | some n => exact Severity.code_eq_iff.2 (.inr (known n rfl))

/-- Whatever is asked for, it is a limit that exists. -/
theorem Chooses.limit (chooses : Chooses command format tokens choices) :
    ∃ limit, Severity.code limit = choices.threshold := by
  obtain ⟨options, -, -, chosen⟩ := chooses
  have known : choices.Known :=
    foldlM_invariant (fun known step => Choices.known_choose known step) chosen nofun
  exact Choices.code_threshold known

end Cli
end EventFilter
