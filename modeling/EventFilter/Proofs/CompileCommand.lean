import EventFilter.Proofs.Calls
import EventFilter.Proofs.Lossless

/-! The command that compiles. Its options only say how the query is made and how it is shown: it
prints what the query's text is, in either format, or why there is no query, and in JSON nothing of
the filter is lost on the way. -/
namespace EventFilter

open Outcome

theorem Query.isLine_text {source : String} {level : Json} {label : Option String} {q : Query}
    (compiled : ofLevel source level label = .ok q) : Text.IsLine q.text :=
  Predicate.isLine_system (Selection.comparisons_plain (selection_valid compiled) _)

namespace Cli

namespace Call

theorem execute_compile {host : Host} {choices : Choices} {filter : String} {q : Query}
    (made : compiled host ⟨.compile, choices, filter⟩ = .ok q) :
    (execute host ⟨.compile, choices, filter⟩).result = .ok { data := compiledData q } ∧
      (execute host ⟨.compile, choices, filter⟩).collected = [] := by
  rw [compiled] at made
  unfold execute
  simp only [made]
  exact ⟨rfl, rfl⟩

end Call

section

variable (q : Query)

theorem exact_compiledData : (Call.compiledData q).Exact := by
  refine ⟨by simp, trivial, ?_, trivial, trivial⟩
  cases q.limit <;> trivial

theorem presentable_compiledData : (Call.compiledData q).Presentable where
  unmarked := by
    have unmarked (text : String) : (Json.str text).Unmarked := trivial
    refine ⟨by decide, unmarked _, by decide, ?_, by decide, unmarked _, trivial⟩
    cases q.limit <;> trivial
  writable := by
    rcases q with ⟨source, _ | severity, selection⟩
    · rfl
    · cases severity <;> rfl
  shallow := by
    have depth : (Call.compiledData q).depth = 2 := by
      rcases q with ⟨source, _ | severity, selection⟩ <;> rfl
    rw [depth]
    decide

theorem answer_compiledData :
    Report.answer "compile" (Call.compiledData q) = Text.printLine q.text := by
  apply Report.answer_compile
  simp [Report.shown, List.lookup_cons, Report.written, Json.isWritable, Json.display]

theorem compiledData_eq {q : Query} {source : String} {level : Int} {label : Option String}
    (made : Query.ofLevel source (.int level) label = .ok q) : Call.compiledData q =
      .obj [("filter", .str (Text.trim source)),
        ("level", if level = -1 then .null else .int level), ("query", .str q.text)] := by
  obtain ⟨code, made⟩ := Query.ofLevel_eq_ok.1 made
  obtain ⟨-, -, rfl, -⟩ := Query.compile_eq_ok.1 made
  have limit : optional (fun severity : Severity => Json.int severity.number) q.limit =
      if Severity.code q.limit = -1 then .null else .int (Severity.code q.limit) := by
    rcases q.limit with _ | severity
    · rfl
    · cases severity <;> rfl
  rw [Json.int.inj code, Call.compiledData, limit]

end

namespace Program

variable {host : Host} {settings : Settings} {choices : Choices} {filter : String}
  {front tokens : List String}

/-- What is printed for a filter that is a query. -/
theorem perform_compile (settings : Settings) {q : Query}
    (made : Call.compiled host ⟨.compile, choices, filter⟩ = .ok q) :
    (perform host settings ⟨.compile, choices, filter⟩).exit = 0 ∧
      match choices.format with
      | .table =>
        (perform host settings ⟨.compile, choices, filter⟩).printed.out = q.text ++ "\n"
      | .json => ReadsBack (perform host settings ⟨.compile, choices, filter⟩).printed.out true
        "compile" (Call.compiledData q) [] .null := by
  obtain ⟨exit, told⟩ := perform_answered settings (Call.execute_compile made)
    (presentable_compiledData q) (exact_compiledData q)
  have line := Text.printLine_self (Query.isLine_text made)
  exact ⟨exit, Format.imp (fun told => (told.1.trans (answer_compiledData q)).trans line) id told⟩

/-- The command agrees with the library on every filter, in both formats. -/
theorem run_compile (opens : Opens host front settings)
    (chooses : Chooses .compile settings.style.format tokens choices) (filter : String) :
    let outcome := run host (front ++ "compile" :: (tokens ++ ["--", filter]))
    let level := choices.threshold
    let compiled := Query.ofLevel filter (.int level) (choices.labelIn host.ambientLabel)
    outcome.usage = none ∧
      (∀ q, compiled = .ok q → outcome.exit = 0 ∧
        match choices.format with
        | .table => outcome.printed.out = q.text ++ "\n"
        | .json => ReadsBack outcome.printed.out true "compile"
            (.obj [("filter", .str (Text.trim filter)),
              ("level", if level = -1 then .null else .int level), ("query", .str q.text)])
            [] .null) ∧
      ∀ failure, compiled = .error failure → (Trouble.ofFailure failure).Blames filter →
        outcome.exit = 2 ∧
        match choices.format with
        | .table => outcome.printed.out = "" ∧ (settings.style.verbosity ≤ 1 →
            ∃ more, outcome.printed.err = "Invalid filter: " ++ more)
        | .json => ReadsBack outcome.printed.out false "compile" .null []
            (.obj [("type", .str "invalid_filter"), ("message", .str failure.message),
              ("hint", .str filterHint), ("details", .obj [("filter", .str filter)])]) := by
  intro outcome level compiled
  have performed : outcome = perform host settings ⟨.compile, choices, filter⟩ :=
    run_chosen opens chooses nofun rfl filter
  rw [performed]
  refine ⟨usage_perform _ _ _, fun q made => ?_, fun failure failed blames => ?_⟩
  · have printed := perform_compile settings made
    rw [compiledData_eq made] at printed
    exact printed
  · obtain ⟨limit, known⟩ := chooses.limit
    have message := Query.blamed known failed blames
    exact perform_blamed (show Command.compile ≠ .version by decide) failed message

/-- A labelled ID, and a text that is no filter, with a quotation mark and a line feed in it. -/
theorem run_compile_quoted :
    ((run ⟨none, fun _ => false, "", ""⟩
          ([] ++ "compile" :: (["-fe"] ++ ["--", "BIP7"]))).exit = 0 ∧
        (run ⟨none, fun _ => false, "", ""⟩
          ([] ++ "compile" :: (["-fe"] ++ ["--", "BIP7"]))).printed.out =
            "*[System[((Level > 0 and Level <= 2) and ((EventID = 7)))]]" ++ "\n") ∧
      (run ⟨none, fun _ => false, "", ""⟩
          (["--json"] ++ "compile" :: ([] ++ ["--", "a\"\n"]))).exit = 2 ∧
        ReadsBack (run ⟨none, fun _ => false, "", ""⟩
            (["--json"] ++ "compile" :: ([] ++ ["--", "a\"\n"]))).printed.out
          false "compile" .null [] (.obj [("type", .str "invalid_filter"),
            ("message", .str "Invalid Event ID filter: 'a\"'"), ("hint", .str filterHint),
            ("details", .obj [("filter", .str "a\"\n")])]) := by
  constructor
  · have opens : Opens ⟨none, fun _ => false, "", ""⟩ [] {} := ⟨[], .nil, nofun, rfl⟩
    have chooses : Chooses .compile .table ["-fe"] { format := .table, errors := true } :=
      ⟨[(.errors, "")], .flag rfl rfl .nil, by decide, rfl⟩
    have query : Query.ofLevel "BIP7" (.int 2) (some "BIP") =
        .ok ⟨"BIP7", some .error, ⟨["7"], [], [], []⟩⟩ := rfl
    have text : (⟨"BIP7", some .error, ⟨["7"], [], [], []⟩⟩ : Query).text =
        "*[System[((Level > 0 and Level <= 2) and ((EventID = 7)))]]" := by decide
    have printed := (run_compile opens chooses "BIP7").2.1 _ query
    rw [text] at printed
    exact printed
  · have opens : Opens ⟨none, fun _ => false, "", ""⟩ ["--json"] { style.format := .json } :=
      ⟨[(.json, "")], .flag rfl rfl .nil, by decide, rfl⟩
    have chooses : Chooses .compile .json [] { format := .json } := ⟨[], .nil, nofun, rfl⟩
    have failed : Query.ofLevel "a\"\n" (.int (-1)) (some "BIP") =
        .error (.filter .unexpected "a\"\n") := rfl
    have message : (Failure.filter .unexpected "a\"\n").message =
        "Invalid Event ID filter: 'a\"'" := by decide
    have told := (run_compile opens chooses "a\"\n").2.2 _ failed rfl
    rw [message] at told
    exact told

end Program
end Cli
end EventFilter
