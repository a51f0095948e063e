import EventFilter.Proofs.BareFilter
import EventFilter.Proofs.Formats

/-! Two spellings of one format. A flag asks for JSON in front of the command and behind it, and the
same can be asked for by name. -/
namespace EventFilter

open Outcome

namespace Cli

def groupAlias : Alias groupVocabulary where
  flag := .json
  key := .output
  name := "--output"
  value := "json"
  regular := groupVocabulary_regular
  known := rfl
  takes := rfl
  bare := rfl
  whole := by decide

def Command.alias (command : Command) : Alias command.vocabulary where
  flag := .json
  key := .output
  name := "--output"
  value := "json"
  regular := command.vocabulary_regular
  known := by cases command <;> rfl
  takes := rfl
  bare := rfl
  whole := by simp [vocabulary]

variable {host : Host} {tokens : List String} {settings : Settings} {command : Command}

namespace Settings

def withFormat (settings : Settings) (format : Format) : Settings :=
  { settings with style.format := format }

theorem choose_format (host : Host) (settings : Settings) (format : Format)
    (option : GroupKey × String) (sets : groupAlias.sets option.1 = true) :
    choose host (settings.withFormat format) option =
      (groupAlias.pick id format option).map settings.withFormat := by
  obtain ⟨key, value⟩ := option
  cases key with
  | output =>
    show (readFormat value >>= _) = (readFormat value).map _
    cases readFormat value <;> rfl
  | json => rfl
  | quiet | verbose | logFile | version | help => contradiction

theorem choose_other (settings : Settings) (format : Format) (option : GroupKey × String)
    (sets : groupAlias.sets option.1 = false) :
    choose host (settings.withFormat format) option =
      (choose host settings option).map (·.withFormat format) := by
  obtain ⟨key, value⟩ := option
  cases key with
  | output | json => contradiction
  | quiet | verbose | version | help => rfl
  | logFile =>
    simp only [choose]
    split <;> rfl

end Settings

namespace Choices

def withFormat (choices : Choices) (format : Format) : Choices := { choices with format }

theorem choose_format (command : Command) (choices : Choices) (format : Format)
    (option : Key × String) (sets : command.alias.sets option.1 = true) :
    choose (choices.withFormat format) option =
      (command.alias.pick (fun _ => .json) format option).map choices.withFormat := by
  obtain ⟨key, value⟩ := option
  cases key with
  | output =>
    show (readFormat value >>= _) = (readFormat value).map _
    cases readFormat value <;> rfl
  | json => rfl
  | eventId | eventLevel | noLabel | label | critical | errors | warnings | level | help =>
    contradiction

theorem choose_other (choices : Choices) (format : Format) (option : Key × String)
    (sets : command.alias.sets option.1 = false) :
    choose (choices.withFormat format) option =
      (choose choices option).map (·.withFormat format) := by
  obtain ⟨key, value⟩ := option
  cases key with
  | output | json => contradiction
  | noLabel | label | critical | errors | warnings | help => rfl
  | eventId | eventLevel | level =>
    show (readInteger _ _ _ >>= _) = (readInteger _ _ _ >>= _).map _
    cases readInteger _ _ value <;> rfl

/-- Behind the command the flag wins over a format that is named, unless it is the first of
them. -/
theorem foldlM_choose (command : Command) (format : Format) (options : List (Key × String)) :
    ((settle options).foldlM choose { format }).toOption =
      ((settle (options.filter (!command.alias.sets ·.1))).foldlM choose
        { format := .table }).toOption.bind fun choices =>
          (command.alias.format options (!command.alias.startsBare options) format).map
            choices.withFormat :=
  command.alias.foldlM_settle (choose_format command) choose_other options { format := .table }
    format

end Choices

/-- A command does the same with the flag spelled out if both choose one format. -/
theorem Command.read_respell {before before' : Format}
    (same : ∀ reading, command.vocabulary.read .empty tokens = .ok reading →
      command.alias.format (reading.options.map command.alias.spellOut)
        (!command.alias.startsBare (reading.options.map command.alias.spellOut)) before' =
      command.alias.format reading.options (!command.alias.startsBare reading.options) before) :
    (command.read before' (command.alias.respell id tokens)).toOption =
      (command.read before tokens).toOption := by
  rw [Command.read, Command.read, command.alias.read_respell_id]
  cases read : command.vocabulary.read .empty tokens with
  | error error => rfl
  | ok reading =>
    have help : (reading.options.map command.alias.spellOut).any (·.1 = .help) =
        reading.options.any (·.1 = .help) := Alias.any_spellOut rfl
    have chosen : ((settle (reading.options.map command.alias.spellOut)).foldlM Choices.choose
        { format := before' }).toOption =
          ((settle reading.options).foldlM Choices.choose { format := before }).toOption := by
      rw [Choices.foldlM_choose command before', Alias.filter_others_spellOut, same reading read,
        ← Choices.foldlM_choose command before]
    simp only [Except.map, ok_bind, Alias.reading, help]
    cases reading.options.any (·.1 = .help) with
    | true => rfl
    | false =>
      simp only [Bool.false_eq_true, if_false]
      rw [toOption_bind, chosen, ← toOption_bind]
      rfl

/-- The same answer, though what is wrong with the command line may be something else. -/
structure Outcome.Agrees (outcome outcome' : Outcome) : Prop where
  printed : outcome.printed = outcome'.printed
  exit : outcome.exit = outcome'.exit
  logs : outcome.logs = outcome'.logs
  usage : outcome.usage.isSome = outcome'.usage.isSome

namespace Outcome.Agrees

theorem refl (outcome : Outcome) : outcome.Agrees outcome := ⟨rfl, rfl, rfl, rfl⟩

theorem symm {a b : Outcome} (first : a.Agrees b) : b.Agrees a :=
  ⟨first.1.symm, first.2.symm, first.3.symm, first.4.symm⟩

theorem trans {a b c : Outcome} (first : a.Agrees b) (second : b.Agrees c) : a.Agrees c :=
  ⟨first.1.trans second.1, first.2.trans second.2, first.3.trans second.3,
    first.4.trans second.4⟩

end Outcome.Agrees

namespace Settings

end Settings

namespace Program

/-- The arguments of the program, where a command's own options are spelled out too. What names no
command is read again as options in front of it. -/
def respellArguments : List String → List String
  | [] => []
  | name :: tokens =>
    match Command.ofName? name with
    | some command => name :: command.alias.respell id tokens
    | none => groupAlias.respell id (name :: tokens)

/-- A command line where the format is asked for by name instead of by the flag. -/
def respell (tokens : List String) : List String := groupAlias.respell respellArguments tokens

theorem groupAlias_respell_argument {token : String} (argument : isOption token = false)
    (rest : List String → List String) (tokens : List String) :
    groupAlias.respell rest (token :: tokens) = rest (token :: tokens) := by
  have inside : token ≠ "--" := by
    rintro rfl
    contradiction
  rw [Alias.respell, if_neg inside, argument]
  rfl

theorem respellArguments_head (token : String) (tokens : List String)
    (argument : isOption token = false) :
    ∃ others, respellArguments (token :: tokens) = token :: others := by
  rw [respellArguments]
  split
  · exact ⟨_, rfl⟩
  · exact ⟨tokens, groupAlias_respell_argument argument id tokens⟩

theorem read_respell (tokens : List String) :
    groupVocabulary.read .empty (respell tokens) =
      (groupVocabulary.read .empty tokens).map (groupAlias.reading respellArguments) :=
  Alias.read_respell (r := .empty) (fun mixed => absurd mixed (by decide)) respellArguments_head
    (fun _ => rfl) tokens

/-- How the program ends on its own, and what it prints to either stream. -/
def answer (tokens : List String) : Printed × Int :=
  let outcome := run ⟨none, fun _ => false, "", ""⟩ tokens
  (outcome.printed, outcome.exit)

end Program

end Cli
end EventFilter
