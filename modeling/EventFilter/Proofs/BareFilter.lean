import EventFilter.Proofs.CommandLine

/-! Filters among the options. A filter is made of digits, blanks, commas and hyphens, and there is
another character in the name of every option. A filter is therefore taken as it stands also where
options are expected, and needs no double hyphen in front. -/
namespace EventFilter

open Outcome

namespace Cli

/-- What filters are made of. -/
def isFilterChar (c : Char) : Bool :=
  Text.isAsciiDigit c || c = ' ' || c = ',' || c = '-'

namespace Vocabulary

variable {κ : Type} {v : Vocabulary κ}

/-- Every name holds a character that filters are not made of, and so does every bundle. -/
structure Lettered (v : Vocabulary κ) : Prop where
  names : ∀ entry ∈ v.names, entry.1.toList.all isFilterChar = false
  letters : ∀ entry ∈ v.letters, isFilterChar entry.1 = false

theorem bundle_unknown (keeps : v.keepsUnknown = true) {cs : List Char}
    (unknown : ∀ c ∈ cs, v.letters.lookup c = none) : v.bundle cs = .ok ([], cs) := by
  induction cs with
  | nil => rfl
  | cons c cs ih =>
    obtain ⟨first, rest⟩ := List.forall_mem_cons.1 unknown
    simp only [bundle, first, keeps, ih rest, if_true]
    rfl

/-- What holds no letter of an option is an argument, however many hyphens it starts with. -/
theorem readUnknown_whole (keeps : v.keepsUnknown = true) {token : String}
    (unknown : ∀ c ∈ token.toList, v.letters.lookup c = none) (option : isOption token = true)
    (name : String) (reading : Reading κ) :
    v.readUnknown token name reading = .ok (reading.argument token) := by
  obtain ⟨c, cs, chars⟩ : ∃ c cs, token.toList = '-' :: c :: cs := by
    unfold isOption at option
    split at option
    · next c cs chars => exact ⟨c, cs, chars⟩
    · contradiction
  rw [chars] at unknown
  have bundled := bundle_unknown keeps (List.forall_mem_cons.1 unknown).2
  unfold readUnknown
  split
  · rw [if_pos keeps]
  · next rest _ same =>
    obtain rfl : rest = c :: cs := (List.cons.inj (same.symm.trans chars)).2
    rw [bundled, ok_bind]
    have whole : String.ofList ('-' :: c :: cs) = token := by rw [← chars, String.ofList_toList]
    simp only [List.isEmpty_cons, whole]
    rfl
  · next same =>
    rw [chars] at same
    contradiction

variable (lettered : v.Lettered) {filter : String}
  (plain : ∀ c ∈ filter.toList, isFilterChar c = true)

include lettered plain

theorem Lettered.lookup_name : v.names.lookup filter = none := by
  rw [List.lookup_eq_none_iff]
  intro entry mem
  rw [bne_iff_ne]
  rintro rfl
  have other := lettered.names entry mem
  rw [List.all_eq_true.2 plain] at other
  contradiction

theorem Lettered.lookup_letter : ∀ c ∈ filter.toList, v.letters.lookup c = none := by
  intro c inside
  rw [List.lookup_eq_none_iff]
  intro entry mem
  rw [bne_iff_ne]
  rintro rfl
  have other := lettered.letters entry mem
  rw [plain _ inside] at other
  contradiction

/-- A filter is one argument, and what follows it is read as before. -/
theorem read_filter (mixed : v.interspersed = true) (keeps : v.keepsUnknown = true)
    (other : filter ≠ "--") (reading : Reading κ) (rest : List String) :
    v.read reading (filter :: rest) = v.read (reading.argument filter) rest := by
  have equals : '=' ∉ filter.toList := fun mem => absurd (plain '=' mem) (by decide)
  rw [read, if_neg other]
  cases option : isOption filter with
  | false => rw [if_neg Bool.false_ne_true, if_pos mixed]
  | true =>
    rw [if_pos rfl, splitValue_name equals]
    simp only [lettered.lookup_name plain]
    rw [readUnknown_whole keeps (lettered.lookup_letter plain) option, ok_bind]

end Vocabulary

theorem Command.vocabulary_lettered (command : Command) : command.vocabulary.Lettered := by
  cases command <;> constructor <;> decide

variable {host : Host} {front tokens rest : List String} {groupOptions : List (GroupKey × String)}
  {options : List (Key × String)} {command : Command} {filter : String}

theorem Command.read_bare (takes : command ≠ .version)
    (spelled : command.vocabulary.Spells options tokens)
    (plain : ∀ c ∈ filter.toList, isFilterChar c = true) (other : filter ≠ "--")
    (format : Format) :
    command.read format (tokens ++ [filter]) = command.read format (tokens ++ ["--", filter]) := by
  have keeps : command.vocabulary.keepsUnknown = true := by
    cases command with
    | version => contradiction
    | compile | judge => rfl
  have bare := Vocabulary.read_filter command.vocabulary_lettered plain rfl keeps other
  have marked := Vocabulary.read_arguments (v := command.vocabulary)
  have same (reading : Reading Key) : command.vocabulary.read reading [filter] =
      command.vocabulary.read reading ["--", filter] := by
    rw [bare, marked, Vocabulary.read]
    rfl
  rw [Command.read, Command.read, Vocabulary.read_spells command.vocabulary_regular spelled,
    Vocabulary.read_spells command.vocabulary_regular spelled, same]

/-- What is asked for in front of the command: for the version or for help at once, or for
settings. -/
def askedFirst (options : List (GroupKey × String)) : Option (GroupKey × String) :=
  options.find? fun option => option.1 = .version || option.1 = .help

/-- Once the options in front are read, it is for what follows them to go on under their
settings. -/
theorem Opening.read_of_read {arguments : List String}
    (read : groupVocabulary.read .empty tokens = .ok ⟨groupOptions, arguments⟩) :
    Opening.read host tokens =
      match askedFirst groupOptions with
      | some (.version, _) => .ok .version
      | some _ => .ok .help
      | none => (Settings.ofOptions host groupOptions).map (.proceed · arguments) := by
  simp only [Opening.read, read, ok_bind, askedFirst]
  cases groupOptions.find? fun option => option.1 = .version || option.1 = .help with
  | some option =>
    obtain ⟨key, value⟩ := option
    cases key <;> rfl
  | none => cases Settings.ofOptions host groupOptions <;> rfl

/-- Options in front of a command are read on their own, whatever they ask for. -/
theorem Vocabulary.read_front (spelled : groupVocabulary.Spells groupOptions front)
    (command : Command) (rest : List String) :
    groupVocabulary.read .empty (front ++ command.name :: rest) =
      .ok ⟨groupOptions, command.name :: rest⟩ := by
  rw [read_spells groupVocabulary_regular spelled, read_command rfl command.isOption_name]
  rfl

/-- What options in front of a command do does not depend on what follows the command. -/
theorem Program.run_front (spelled : groupVocabulary.Spells groupOptions front)
    {rest rest' : List String} (same : ∀ settings,
      runCommand host settings command rest = runCommand host settings command rest') :
    run host (front ++ command.name :: rest) = run host (front ++ command.name :: rest') := by
  simp only [run, Opening.read_of_read (Vocabulary.read_front spelled command _)]
  cases askedFirst groupOptions with
  | some option =>
    obtain ⟨key, value⟩ := option
    cases key <;> rfl
  | none =>
    cases Settings.ofOptions host groupOptions with
    | error error => rfl
    | ok settings =>
      simp only [Except.map, Command.ofName?_name]
      exact same settings

/-- A filter says the same with a double hyphen in front of it and without. -/
theorem Program.run_bare (host : Host)
    (spelledFront : groupVocabulary.Spells groupOptions front)
    (takes : command ≠ .version) (spelled : command.vocabulary.Spells options tokens)
    (plain : ∀ c ∈ filter.toList, isFilterChar c = true) (other : filter ≠ "--") :
    run host (front ++ command.name :: (tokens ++ [filter])) =
      run host (front ++ command.name :: (tokens ++ ["--", filter])) := by
  refine run_front spelledFront fun settings => ?_
  simp only [runCommand, Command.read_bare takes spelled plain other]

/-- Hyphens in front of a filter are part of it, behind options of every kind. -/
theorem Program.run_bare_hyphens :
    run ⟨none, fun _ => false, "", ""⟩
        ["--json", "match", "--event-id", "7", "-fw", "--1, -5 - 9"] =
      run ⟨none, fun _ => false, "", ""⟩
        ["--json", "match", "--event-id", "7", "-fw", "--", "--1, -5 - 9"] ∧
    Command.judge.read .json ["--event-id", "7", "-fw", "--1, -5 - 9"] =
      .ok (some ⟨.judge, { format := .json, eventId := some 7, warnings := true },
        "--1, -5 - 9"⟩) := by
  have front : groupVocabulary.Spells [(.json, "")] ["--json"] := .flag rfl rfl .nil
  have options : Command.judge.vocabulary.Spells [(.eventId, "7"), (.warnings, "")]
      ["--event-id", "7", "-fw"] := .apart rfl rfl "7" (.flag rfl rfl .nil)
  have plain : ∀ c ∈ "--1, -5 - 9".toList, isFilterChar c = true :=
    List.all_eq_true.1 (by decide)
  have takes : Command.judge ≠ .version := nofun
  have bare := run_bare ⟨none, fun _ => false, "", ""⟩ front takes options plain (by decide)
  exact ⟨bare, rfl⟩

end Cli
end EventFilter
