import EventFilter.Proofs.Blame
import EventFilter.Proofs.CommandLine
import EventFilter.Proofs.PrintedData

/-! Calls as they are carried out. A command line stands for a call, and how the call ends is how
the program ends; the log adds nothing to the answer. A filter that is at fault is told in the same
way by every command that takes one. -/
namespace EventFilter

open Outcome

theorem Query.isOwn_readEntry (text : String) (s : Selection) :
    (readEntry text s).isOwn = true := by
  show (decide ("evtquery.parser" = "evtquery") ||
    ("evtquery".toList ++ ['.']).isPrefixOf "evtquery.parser".toList) = true
  decide

theorem Query.isOwn_compiledEntry (q : Query) : q.compiledEntry.isOwn = true := by
  show (decide ("evtquery.query" = "evtquery") ||
    ("evtquery".toList ++ ['.']).isPrefixOf "evtquery.query".toList) = true
  decide

/-- What is logged on the way to a query is for debugging. -/
theorem Query.isOwn_trace {source : String} {level : Json} {label : Option String} :
    ∀ entry ∈ trace source level label, entry.isOwn = true ∧ entry.level = Log.debug := by
  intro entry mem
  unfold trace at mem
  split at mem
  · rcases List.mem_cons.1 mem with rfl | mem
    · exact ⟨isOwn_readEntry _ _, rfl⟩
    · split at mem
      · rw [List.mem_singleton.1 mem]
        exact ⟨isOwn_compiledEntry _, rfl⟩
      · contradiction
  · contradiction

/-- A fault that is blamed on the filter is told with the filter it was found in. -/
theorem Query.blamed {source : String} {level : Int} {label : Option String} {failure : Failure}
    {limit : Option Severity} (known : Severity.code limit = level)
    (failed : ofLevel source (.int level) label = .error failure)
    (blames : (Cli.Trouble.ofFailure failure).Blames source) :
    Cli.Trouble.ofFailure failure = .filter failure.message (some source) := by
  subst known
  obtain ⟨fault, rfl⟩ := ofLevel_fault failed
  cases fault with
  | oversizedBound digits => exact absurd blames id
  | _ => rfl

namespace Cli

theorem exact_filter (message source : String) :
    (Trouble.filter message (some source)).info.toJson.Exact := by
  refine ⟨by simp, trivial, trivial, trivial, ?_, trivial⟩
  exact ⟨by simp, trivial, trivial⟩

theorem presentable_filter (message source : String) :
    (Trouble.filter message (some source)).info.Presentable :=
  List.forall_mem_cons.2 ⟨⟨rfl, show 1 ≤ 255 by decide⟩, nofun⟩

namespace Call

variable {host : Host} {call : Call}

/-- What is asked of the library, whichever command does it. -/
def compiled (host : Host) (call : Call) : Except Failure Query :=
  Query.ofLevel call.filter call.level (call.choices.labelIn host.ambientLabel)

theorem execute_error (takes : call.command ≠ .version) {failure : Failure}
    (failed : call.compiled host = .error failure) :
    (call.execute host).result = .error (.ofFailure failure) ∧
      (call.execute host).collected = [] := by
  rw [compiled] at failed
  unfold execute
  split
  · contradiction
  · simp only [failed, and_self]

theorem entries_execute (host : Host) (call : Call) :
    ∀ entry ∈ (call.execute host).entries, entry.isOwn = true ∧ entry.level = Log.debug := by
  unfold execute
  split
  · nofun
  · dsimp only
    split
    · exact Query.isOwn_trace
    · split <;> exact Query.isOwn_trace

end Call

namespace Program

variable {host : Host} {settings : Settings} {call : Call} {ending : Ending}

theorem usage_perform (host : Host) (settings : Settings) (call : Call) :
    (perform host settings call).usage = none := by
  unfold perform
  dsimp only
  split <;> rfl

/-- How a call ends is how the program ends; the log only adds lines in front on the error stream,
and none unless details are asked for twice. -/
theorem perform_ends {result : Except Trouble Output} {collected : List String}
    (executed : (call.execute host).result = result ∧ (call.execute host).collected = collected)
    (ended : conclude { settings.style with format := call.choices.format } call.command.name
      collected 0 result = .ok ending) :
    (perform host settings call).exit = ending.exit ∧
      (perform host settings call).printed.out = ending.printed.out ∧
      ∃ logged, (perform host settings call).printed.err = logged ++ ending.printed.err ∧
        (settings.style.verbosity ≤ 1 → logged = "") := by
  obtain ⟨rfl, rfl⟩ := executed
  unfold perform
  simp only [ended, printed_append, String.empty_append]
  refine ⟨trivial, trivial, _, rfl, fun calm => ?_⟩
  rw [Log.Written.terminal_foldl calm settings.logFile (call.entries_execute host)]
  cases settings.logFile <;> rfl

/-- What is printed for an answer, whatever the command: the answer, and the warnings behind
everything else that is told. -/
theorem perform_answered (settings : Settings) {data : Json} {exit : Int} {warnings : List String}
    (executed : (call.execute host).result = .ok ⟨data, [], exit⟩ ∧
      (call.execute host).collected = warnings)
    (presentable : data.Presentable) (exact : data.Exact) :
    (perform host settings call).exit = exit ∧
      match call.choices.format with
      | .table =>
        (perform host settings call).printed.out = Report.answer call.command.name data ∧
          ∃ before, (perform host settings call).printed.err =
            before ++ (Report.printWarnings settings.style warnings).err
      | .json => ReadsBack (perform host settings call).printed.out true call.command.name data
          warnings .null := by
  let style : Style := { settings.style with format := call.choices.format }
  cases format : call.choices.format with
  | table =>
    obtain ⟨details, told, -⟩ := Report.printData_showable presentable.toShowable style
      call.command.name
    obtain ⟨same, out, logged, err, -⟩ := perform_ends executed
      (conclude_ok_table (show style.format = .table from format) told)
    exact ⟨same, out, logged ++ details, err.trans (String.append_assoc ..).symm⟩
  | json =>
    have brief : (Json.int (0 : Nat)).isWritable = true := rfl
    obtain ⟨same, out, -⟩ := perform_ends executed
      (conclude_json (show style.format = .json from format) presentable brief)
    exact ⟨same, out ▸ Report.readsBack_toJson _ exact trivial⟩

/-- What is printed for a failure, whatever the command: nothing but an error. -/
theorem perform_failed (settings : Settings) {trouble : Trouble} {warnings : List String}
    (executed : (call.execute host).result = .error trouble ∧
      (call.execute host).collected = warnings)
    (presentable : trouble.info.Presentable) (exact : trouble.info.toJson.Exact) :
    (perform host settings call).exit = trouble.exit ∧
      match call.choices.format with
      | .table => (perform host settings call).printed.out = "" ∧ ∃ logged more,
        (perform host settings call).printed.err = logged ++ (trouble.info.line ++ more) ∧
          (settings.style.verbosity ≤ 1 → logged = "")
      | .json => ReadsBack (perform host settings call).printed.out false call.command.name .null
          warnings trouble.info.toJson := by
  let style : Style := { settings.style with format := call.choices.format }
  cases format : call.choices.format with
  | table =>
    obtain ⟨more, ended, -⟩ := conclude_error_table (show style.format = .table from format) trouble
    obtain ⟨exit, out, logged, err, calm⟩ := perform_ends executed ended
    exact ⟨exit, out, logged, more, err, calm⟩
  | json =>
    have brief : (Json.int (0 : Nat)).isWritable = true := rfl
    obtain ⟨exit, out, -⟩ := perform_ends executed
      (conclude_json (show style.format = .json from format) presentable brief)
    exact ⟨exit, out ▸ Report.readsBack_toJson _ trivial exact⟩

/-- A filter that is at fault is told as such. -/
theorem perform_blamed (takes : call.command ≠ .version) {failure : Failure} {message : String}
    (failed : call.compiled host = .error failure)
    (blames : Trouble.ofFailure failure = .filter message (some call.filter)) :
    (perform host settings call).exit = 2 ∧
      match call.choices.format with
      | .table => (perform host settings call).printed.out = "" ∧
        (settings.style.verbosity ≤ 1 → ∃ more,
          (perform host settings call).printed.err = "Invalid filter: " ++ more)
      | .json => ReadsBack (perform host settings call).printed.out false
        call.command.name .null [] (Trouble.filter message (some call.filter)).info.toJson := by
  have executed := Call.execute_error takes failed
  rw [blames] at executed
  obtain ⟨exit, told⟩ := perform_failed settings executed
    (presentable_filter message call.filter) (exact_filter message call.filter)
  refine ⟨exit, Format.imp (fun ⟨out, logged, more, err, calm⟩ => ?_) id told⟩
  have opening : Text.IsLine "Invalid filter: " := by decide
  obtain ⟨rest, shown⟩ := Text.printLine_append opening message
  refine ⟨out, fun quiet => ⟨rest ++ more, err.trans ?_⟩⟩
  rw [calm quiet, ErrorInfo.line, title_filter, String.empty_append]
  show Text.printLine ("Invalid filter: " ++ message) ++ more = _
  rw [shown, String.append_assoc]

variable {command : Command} {front tokens : List String} {choices : Choices}

/-- A command line is read as the call that it stands for. -/
theorem run_chosen (opens : Opens host front settings)
    (chooses : Chooses command settings.style.format tokens choices) (takes : command ≠ .version)
    (complete : command.requireEvent choices = .ok ()) (filter : String) :
    run host (front ++ command.name :: (tokens ++ ["--", filter])) =
      perform host settings ⟨command, choices, filter⟩ := by
  rw [opens.run, runCommand, chooses.read takes complete]

end Program
end Cli
end EventFilter
