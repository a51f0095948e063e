import EventFilter.Proofs.Calls
import EventFilter.Proofs.EventOptions
import EventFilter.Proofs.Usable

/-! The command that judges an event. There are three exit codes, for an event that is selected, for
one that is not, and for what cannot be told, and they say what the library says. Under a limit an
event without a severity is never selected, and the warning that says so is right. -/
namespace EventFilter

open Outcome

namespace Query

/-- What the library says of an event: whether it is selected, or why that cannot be told. -/
def judge (source : String) (level : Json) (label : Option String) (event : Event) :
    Except Failure Bool := do
  let q ← ofLevel source level label
  (q.holds event).mapError .integer

variable {source : String} {level : Json} {label : Option String} {event : Event}

theorem judge_eq_ok {matched : Bool} : judge source level label event = .ok matched ↔
    ∃ q, ofLevel source level label = .ok q ∧ q.holds event = .ok matched := by
  simp only [judge, bind_eq_ok, mapError_eq_ok]

theorem judge_eq_error {failure : Failure} : judge source level label event = .error failure ↔
    ofLevel source level label = .error failure ∨
      ∃ q, ofLevel source level label = .ok q ∧
        ∃ e, q.holds event = .error e ∧ Failure.integer e = failure := by
  simp only [judge, bind_eq_error, mapError_eq_error]

/-- Under a limit the severity is looked at first, so without one no event is selected, and none of
the numbers of the filter is read. -/
theorem holds_unranked {q : Query} {severity : Severity} (limited : q.limit = some severity)
    (absent : event.present severityField = none) : q.holds event = .ok false := by
  have limit : Severity.code q.limit ≠ -1 := by
    rw [limited]
    cases severity <;> decide
  have first : (Selection.severityPart (Severity.code q.limit)).holds event = .ok false := by
    rw [Selection.severityPart, Predicate.both, Predicate.holds, Predicate.holds,
      Predicate.compareField, absent]
    rfl
  rw [holds, predicate, Selection.predicate, if_neg limit, Predicate.holds, first]
  rfl

end Query

theorem Event.integral_of_members {event : Event}
    (integral : ∀ row ∈ event, ∃ n, row.2.toInt = .ok n) (field : String) :
    event.Integral field := by
  intro value present
  unfold Event.present at present
  split at present
  · contradiction
  · contradiction
  · next found =>
    cases present
    obtain ⟨before, after, parts, -⟩ := List.lookup_eq_some_iff.1 found
    apply integral (field, value)
    rw [parts]
    exact List.mem_append_cons_self

namespace Cli

/-- The input is to blame, and what is wrong with it can be told in either format. -/
structure Trouble.IsInput (trouble : Trouble) : Prop where
  exit : trouble.exit = 2
  presentable : trouble.info.Presentable
  exact : trouble.info.toJson.Exact

namespace Trouble

theorem isInput_value (message : String) : (plain .value message).IsInput :=
  ⟨rfl, nofun, by simp, trivial, trivial, trivial, trivial, trivial⟩

theorem isInput_filter (fault : Fault) (source : String) :
    (ofFailure (.filter fault source)).IsInput := by
  cases fault with
  | oversizedBound digits => exact isInput_value _
  | _ => exact ⟨rfl, presentable_filter _ source, exact_filter _ source⟩

end Trouble

section

variable {id : Nat} {severity : Option Nat}

theorem integral_eventOf (id : Nat) (severity : Option Nat) (field : String) :
    Event.Integral (eventOf id severity) field := by
  apply Event.integral_of_members
  cases severity with
  | none => exact List.forall_mem_cons.2 ⟨⟨id, rfl⟩, nofun⟩
  | some n => exact List.forall_mem_cons.2 ⟨⟨id, rfl⟩, List.forall_mem_cons.2 ⟨⟨n, rfl⟩, nofun⟩⟩

variable (q : Query) (matched : Bool)

theorem exact_judgedData :
    (Call.judgedData q (eventOf id severity) matched).Exact := by
  refine ⟨by simp, trivial, ?_, trivial, trivial⟩
  cases severity with
  | none => exact ⟨by simp [eventOf], trivial, trivial⟩
  | some n => exact ⟨by simp [eventOf, idField, severityField], trivial, trivial, trivial⟩

theorem presentable_judgedData (short : (toString id).length ≤ Text.maxDigits)
    (short' : ∀ n ∈ severity, (toString n).length ≤ Text.maxDigits) :
    (Call.judgedData q (eventOf id severity) matched).Presentable where
  unmarked := by
    have unmarked (text : String) : (Json.str text).Unmarked := trivial
    refine ⟨by decide, unmarked _, by decide, ?_, by decide, trivial, trivial⟩
    cases severity with
    | none => exact ⟨by decide, trivial, trivial⟩
    | some n => exact ⟨by decide, trivial, by decide, trivial, trivial⟩
  writable := by
    have event : (Json.obj (eventOf id severity)).isWritable = true := by
      apply Json.writableMembers_iff.2
      cases severity with
      | none => exact List.forall_mem_cons.2 ⟨decide_eq_true short, nofun⟩
      | some n =>
        have second := decide_eq_true (short' n rfl)
        exact List.forall_mem_cons.2
          ⟨decide_eq_true short, List.forall_mem_cons.2 ⟨second, nofun⟩⟩
    apply Json.writableMembers_iff.2
    exact List.forall_mem_cons.2
      ⟨rfl, List.forall_mem_cons.2 ⟨event, List.forall_mem_cons.2 ⟨rfl, nofun⟩⟩⟩
  shallow := by
    have depth : (Call.judgedData q (eventOf id severity) matched).depth = 3 := by
      cases severity <;> rfl
    rw [depth]
    decide

theorem answer_judgedData (event : Event) :
    Report.answer "match" (Call.judgedData q event matched) =
      (if matched then "match" else "no match") ++ "\n" := by
  rw [Call.judgedData, Report.answer_match]
  have yes : Text.IsLine "match" := by decide
  have no : Text.IsLine "no match" := by decide
  cases matched with
  | true => exact Text.printLine_self yes
  | false => exact Text.printLine_self no

end

/-- What is warned of when a severity is asked for and the event has none. -/
def unranked : String := "No --event-level given; a severity filter never matches it."

namespace Call

variable {host : Host} {choices : Choices} {filter : String} {id : Nat} {severity : Option Nat}

/-- The call that asks about the event. -/
def about (choices : Choices) (filter : String) (id : Nat) (severity : Option Nat) : Call :=
  ⟨.judge, choices.about (some id) (severity.map Int.ofNat), filter⟩

theorem execute_about {q : Query}
    (made : compiled host (about choices filter id severity) = .ok q) :
    (execute host (about choices filter id severity)).result =
        judge (choices.about (some id) (severity.map Int.ofNat)) q ∧
      (execute host (about choices filter id severity)).collected =
        warnings (choices.about (some id) (severity.map Int.ofNat)) q := by
  rw [compiled] at made
  unfold execute
  simp only [about] at made ⊢
  simp only [made]
  exact ⟨rfl, rfl⟩

theorem warnings_about {q : Query}
    (made : compiled host (about choices filter id severity) = .ok q) :
    warnings (choices.about (some id) (severity.map Int.ofNat)) q =
      if choices.threshold ≠ -1 ∧ severity = none then [unranked] else [] := by
  have code : choices.threshold = Severity.code q.limit :=
    Json.int.inj (Query.ofLevel_eq_ok.1 made).1
  have limited : choices.threshold ≠ -1 ↔ q.limit.isSome = true := by
    rw [code]
    rcases q.limit with _ | limit
    · decide
    · cases limit <;> decide
  have bare : (severity.map Int.ofNat).isNone = true ↔ severity = none := by simp
  rw [warnings]
  simp only [Choices.about, Bool.and_eq_true, limited, bare]
  exact if_congr and_comm rfl rfl

theorem execute_judged {q : Query} {matched : Bool}
    (made : compiled host (about choices filter id severity) = .ok q)
    (held : q.holds (eventOf id severity) = .ok matched) :
    (execute host (about choices filter id severity)).result =
        .ok ⟨judgedData q (eventOf id severity) matched, [], if matched then 0 else 1⟩ ∧
      (execute host (about choices filter id severity)).collected =
        if choices.threshold ≠ -1 ∧ severity = none then [unranked] else [] := by
  obtain ⟨result, collected⟩ := execute_about made
  rw [result, collected, warnings_about made, judge, event_about, held]
  exact ⟨rfl, rfl⟩

theorem execute_unheld {q : Query} {e : IntegerError}
    (made : compiled host (about choices filter id severity) = .ok q)
    (unheld : q.holds (eventOf id severity) = .error e) :
    (execute host (about choices filter id severity)).result = .error (.ofInteger e) := by
  rw [(execute_about made).1, judge, event_about, unheld]

/-- Whatever keeps the event from being judged, the input is to blame. -/
theorem execute_unjudged {limit : Option Severity} (known : Severity.code limit = choices.threshold)
    {failure : Failure} (failed : Query.judge filter (.int choices.threshold)
      (choices.labelIn host.ambientLabel) (eventOf id severity) = .error failure) :
    ∃ trouble : Trouble, trouble.IsInput ∧
      (execute host (about choices filter id severity)).result = .error trouble := by
  rcases Query.judge_eq_error.1 failed with unmade | ⟨q, made, e, unheld, rfl⟩
  · have faulty := unmade
    rw [← known] at faulty
    obtain ⟨fault, rfl⟩ := Query.ofLevel_fault faulty
    have takes : (about choices filter id severity).command ≠ .version := nofun
    exact ⟨_, Trouble.isInput_filter fault filter, (execute_error takes unmade).1⟩
  · rcases Query.holds_integral made (integral_eventOf id severity _)
      (integral_eventOf id severity _) with ⟨b, held⟩ | ⟨digits, -, -, long⟩
    · rw [unheld] at held
      contradiction
    · exact ⟨_, Trouble.isInput_value _, execute_unheld made long⟩

end Call

theorem warned_unranked {style : Style} (loud : style.quiet = false) :
    (Report.printWarnings style [unranked]).err = "Warning: " ++ unranked ++ "\n" := by
  have line : Text.IsLine ("Warning: " ++ unranked) := by decide
  rw [Report.printWarnings, loud, if_neg Bool.false_ne_true, List.map_cons, List.map_nil,
    Text.printLine_self line]
  exact String.empty_append

namespace Program

variable {host : Host} {settings : Settings} {choices : Choices} {filter : String}
  {front tokens : List String} {options : List (Key × String)} {id : Nat} {severity : Option Nat}

/-- An event that is judged is told of, with the warning behind everything else. -/
theorem perform_judged {matched : Bool} (settings : Settings)
    (judged : Query.judge filter (.int choices.threshold) (choices.labelIn host.ambientLabel)
      (eventOf id severity) = .ok matched)
    (short : (toString id).length ≤ Text.maxDigits)
    (short' : ∀ n ∈ severity, (toString n).length ≤ Text.maxDigits) :
    let outcome := perform host settings (Call.about choices filter id severity)
    let warnings := if choices.threshold ≠ -1 ∧ severity = none then [unranked] else []
    outcome.exit = (if matched then 0 else 1) ∧
      match choices.format with
      | .table => outcome.printed.out = (if matched then "match" else "no match") ++ "\n" ∧
          ∃ before, outcome.printed.err =
            before ++ (Report.printWarnings settings.style warnings).err
      | .json => ∃ q, Query.ofLevel filter (.int choices.threshold)
            (choices.labelIn host.ambientLabel) = .ok q ∧
          ReadsBack outcome.printed.out true "match"
            (.obj [("query", .str q.text), ("event", .obj (eventOf id severity)),
              ("matched", .bool matched)]) warnings .null := by
  intro outcome warnings
  obtain ⟨q, made, held⟩ := Query.judge_eq_ok.1 judged
  obtain ⟨exit, told⟩ := perform_answered settings (Call.execute_judged made held)
    (presentable_judgedData q matched short short') (exact_judgedData q matched)
  have answer := answer_judgedData q matched (eventOf id severity)
  exact ⟨exit, Format.imp (fun ⟨out, warned⟩ => ⟨out.trans answer, warned⟩)
    (fun reads => ⟨q, made, reads⟩) told⟩

/-- The warning is true: there is no other answer for an event without a severity. -/
theorem perform_unranked {q : Query} (settings : Settings)
    (made : Query.ofLevel filter (.int choices.threshold) (choices.labelIn host.ambientLabel) =
      .ok q)
    (limited : choices.threshold ≠ -1) (short : (toString id).length ≤ Text.maxDigits) :
    let outcome := perform host settings (Call.about choices filter id none)
    outcome.exit = 1 ∧
      match choices.format with
      | .table => outcome.printed.out = "no match" ++ "\n" ∧ (settings.style.quiet = false →
          ∃ before, outcome.printed.err = before ++ ("Warning: " ++ unranked ++ "\n"))
      | .json => ReadsBack outcome.printed.out true "match" (.obj [("query", .str q.text),
          ("event", .obj (eventOf id none)), ("matched", .bool false)]) [unranked] .null := by
  intro outcome
  have code : choices.threshold = Severity.code q.limit :=
    Json.int.inj (Query.ofLevel_eq_ok.1 made).1
  have held : q.holds (eventOf id none) = .ok false := by
    cases limit : q.limit with
    | none =>
      rw [limit] at code
      contradiction
    | some severity => exact Query.holds_unranked limit rfl
  have warned : (if choices.threshold ≠ -1 ∧ (none : Option Nat) = none then [unranked] else []) =
      [unranked] := if_pos ⟨limited, rfl⟩
  obtain ⟨exit, told⟩ := perform_judged settings (Query.judge_eq_ok.2 ⟨q, made, held⟩) short nofun
  rw [warned] at told
  refine ⟨exit, Format.imp (fun ⟨out, before, err⟩ => ⟨out, fun loud => ⟨before, ?_⟩⟩)
    (fun ⟨q', made', reads⟩ => ?_) told⟩
  · rw [err, warned_unranked loud]
  · rw [made] at made'
    cases made'
    exact reads

/-- An event that is not judged is told of as an error. -/
theorem perform_unjudged {failure : Failure} {limit : Option Severity} (settings : Settings)
    (known : Severity.code limit = choices.threshold)
    (failed : Query.judge filter (.int choices.threshold) (choices.labelIn host.ambientLabel)
      (eventOf id severity) = .error failure) :
    let outcome := perform host settings (Call.about choices filter id severity)
    outcome.exit = 2 ∧
      match choices.format with
      | .table => outcome.printed.out = ""
      | .json => ∃ warnings error,
          ReadsBack outcome.printed.out false "match" .null warnings error := by
  intro outcome
  obtain ⟨trouble, input, result⟩ := Call.execute_unjudged known failed
  obtain ⟨exit, told⟩ := perform_failed settings ⟨result, rfl⟩ input.presentable input.exact
  exact ⟨exit.trans input.exit, Format.imp (fun told => told.1) (fun reads => ⟨_, _, reads⟩) told⟩

/-- The three exit codes differ, so each of them tells which case it is. -/
theorem exit_tells {verdict : Except Failure Bool} {exit : Int}
    (judged : ∀ matched, verdict = .ok matched → exit = if matched then 0 else 1)
    (unjudged : ∀ failure, verdict = .error failure → exit = 2) :
    (∀ matched : Bool, exit = (if matched then 0 else 1) → verdict = .ok matched) ∧
      (exit = 2 → ∃ failure, verdict = .error failure) := by
  cases verdict with
  | ok b =>
    have exits : ∀ a b : Bool, ((if a then 0 else 1) : Int) = (if b then 0 else 1) → a = b := by
      decide
    have settled : ∀ a : Bool, ((if a then 0 else 1) : Int) ≠ 2 := by decide
    rw [judged b rfl]
    exact ⟨fun matched same => by rw [exits b matched same], fun same => absurd same (settled b)⟩
  | error failure =>
    have settled : ∀ a : Bool, (2 : Int) ≠ if a then 0 else 1 := by decide
    rw [unjudged failure rfl]
    exact ⟨fun matched same => absurd same (settled matched), fun _ => ⟨failure, rfl⟩⟩

/-- The command says of every event what the library says of it, in both formats. -/
theorem run_match (opens : Opens host front settings)
    (spelled : Command.judge.vocabulary.Spells options tokens)
    (asks : AsksAbout settings.style.format options id severity choices) (filter : String) :
    let outcome := run host (front ++ "match" :: (tokens ++ ["--", filter]))
    let level := choices.threshold
    let label := choices.labelIn host.ambientLabel
    let event := eventOf id severity
    let verdict := Query.judge filter (.int level) label event
    let warnings := if level ≠ -1 ∧ severity = none then [unranked] else []
    outcome.usage = none ∧
      (∀ matched, verdict = .ok matched ↔ outcome.exit = (if matched then 0 else 1) ∧
        match choices.format with
        | .table => outcome.printed.out = (if matched then "match" else "no match") ++ "\n"
        | .json => ∃ q, Query.ofLevel filter (.int level) label = .ok q ∧
            ReadsBack outcome.printed.out true "match" (.obj [("query", .str q.text),
              ("event", .obj event), ("matched", .bool matched)]) warnings .null) ∧
      ((∃ failure, verdict = .error failure) ↔ outcome.exit = 2 ∧
        match choices.format with
        | .table => outcome.printed.out = ""
        | .json => ∃ warnings error,
            ReadsBack outcome.printed.out false "match" .null warnings error) ∧
      ∀ q, Query.ofLevel filter (.int level) label = .ok q → level ≠ -1 → severity = none →
        outcome.exit = 1 ∧
        match choices.format with
        | .table => outcome.printed.out = "no match" ++ "\n" ∧ (settings.style.quiet = false →
            ∃ before, outcome.printed.err = before ++ ("Warning: " ++ unranked ++ "\n"))
        | .json => ReadsBack outcome.printed.out true "match" (.obj [("query", .str q.text),
            ("event", .obj event), ("matched", .bool false)]) [unranked] .null := by
  intro outcome level label event verdict warnings
  obtain ⟨limit, known⟩ := asks.limit spelled
  have performed : outcome = perform host settings (.about choices filter id severity) :=
    run_chosen opens (asks.chooses spelled) nofun rfl filter
  have short := asks.id.short
  have short' : ∀ n ∈ severity, (toString n).length ≤ Text.maxDigits := by
    rintro n ⟨⟩
    exact asks.severity.short
  have judged (matched : Bool) (told : verdict = .ok matched) :=
    perform_judged settings told short short'
  have unjudged (failure : Failure) (told : verdict = .error failure) :=
    perform_unjudged settings known told
  rw [performed]
  obtain ⟨settled, unsettled⟩ := exit_tells (fun matched told => (judged matched told).1)
    fun failure told => (unjudged failure told).1
  refine ⟨usage_perform _ _ _, fun matched => ⟨fun told => ?_, fun ⟨exit, _⟩ => settled _ exit⟩,
    ⟨fun ⟨failure, told⟩ => unjudged failure told, fun ⟨exit, _⟩ => unsettled exit⟩,
    fun q made limited unranked => ?_⟩
  · obtain ⟨exit, printed⟩ := judged matched told
    exact ⟨exit, Format.imp (fun printed => printed.1) (fun reads => reads) printed⟩
  · subst unranked
    exact perform_unranked settings made limited short

/-- Only errors are asked for: an event without a severity, one that is an error, and a filter that
is no filter. -/
theorem run_match_errors :
    ((run ⟨none, fun _ => false, "", ""⟩
          ([] ++ "match" :: (["-fe", "--event-id", "7"] ++ ["--", "5-9"]))).exit = 1 ∧
        ∃ before, (run ⟨none, fun _ => false, "", ""⟩
            ([] ++ "match" :: (["-fe", "--event-id", "7"] ++ ["--", "5-9"]))).printed.err =
          before ++ ("Warning: " ++ unranked ++ "\n")) ∧
      ((run ⟨none, fun _ => false, "", ""⟩ (["--json"] ++ "match" ::
            (["--event-level=2", "-fe", "--event-id", "7"] ++ ["--", "5-9"]))).exit = 0 ∧
        ReadsBack (run ⟨none, fun _ => false, "", ""⟩ (["--json"] ++ "match" ::
            (["--event-level=2", "-fe", "--event-id", "7"] ++ ["--", "5-9"]))).printed.out
          true "match" (.obj [("query", .str
            "*[System[((Level > 0 and Level <= 2) and ((EventID >= 5 and EventID <= 9)))]]"),
            ("event", .obj [("EventID", .int 7), ("Level", .int 2)]), ("matched", .bool true)])
          [] .null) ∧
      (run ⟨none, fun _ => false, "", ""⟩
          ([] ++ "match" :: (["-fe", "--event-id", "7"] ++ ["--", "x"]))).exit = 2 ∧
        (run ⟨none, fun _ => false, "", ""⟩
          ([] ++ "match" :: (["-fe", "--event-id", "7"] ++ ["--", "x"]))).printed.out = "" := by
  have opens : Opens ⟨none, fun _ => false, "", ""⟩ [] {} := ⟨[], .nil, nofun, rfl⟩
  have spelled : Command.judge.vocabulary.Spells [(.errors, ""), (.eventId, "7")]
      ["-fe", "--event-id", "7"] := .flag rfl rfl (.apart rfl rfl "7" .nil)
  have asks : AsksAbout .table [(.errors, ""), (.eventId, "7")] 7 none
      { format := .table, errors := true } :=
    ⟨by decide, ⟨"7", by decide, by decide, by decide, by decide⟩,
      show Key.eventLevel ∉ [Key.errors, Key.eventId] by decide, rfl⟩
  have query : Query.ofLevel "5-9" (.int 2) (some "BIP") =
      .ok ⟨"5-9", some .error, ⟨[], [], [⟨"5", "9"⟩], []⟩⟩ := rfl
  refine ⟨?_, ?_, ?_⟩
  · have told := (run_match opens spelled asks "5-9").2.2.2 _ query (by decide) rfl
    exact ⟨told.1, told.2.2 rfl⟩
  · have opens : Opens ⟨none, fun _ => false, "", ""⟩ ["--json"] { style.format := .json } :=
      ⟨[(.json, "")], .flag rfl rfl .nil, by decide, rfl⟩
    have spelled : Command.judge.vocabulary.Spells
        [(.eventLevel, "2"), (.errors, ""), (.eventId, "7")]
        ["--event-level=2", "-fe", "--event-id", "7"] := by
      have joined : "--event-level=2" = "--event-level" ++ "=" ++ "2" := by decide
      rw [joined]
      exact .joined rfl rfl "2" spelled
    have asks : AsksAbout .json [(.eventLevel, "2"), (.errors, ""), (.eventId, "7")] 7 (some 2)
        { format := .json, errors := true } :=
      ⟨by decide, ⟨"7", by decide, by decide, by decide, by decide⟩,
        ⟨"2", by decide, by decide, by decide, by decide⟩, rfl⟩
    have judged : Query.judge "5-9" (.int 2) (some "BIP")
        [("EventID", .int 7), ("Level", .int 2)] = .ok true := rfl
    have text : (⟨"5-9", some .error, ⟨[], [], [⟨"5", "9"⟩], []⟩⟩ : Query).text =
        "*[System[((Level > 0 and Level <= 2) and ((EventID >= 5 and EventID <= 9)))]]" := by
      decide
    obtain ⟨exit, q, made, reads⟩ := ((run_match opens spelled asks "5-9").2.1 true).1 judged
    obtain rfl := Except.ok.inj (query.symm.trans made)
    rw [text] at reads
    exact ⟨exit, reads⟩
  · have unjudged : Query.judge "x" (.int 2) (some "BIP") [("EventID", .int 7)] =
        .error (.filter .unexpected "x") := rfl
    exact (run_match opens spelled asks "x").2.2.1.1 ⟨_, unjudged⟩

end Program

end Cli
end EventFilter
