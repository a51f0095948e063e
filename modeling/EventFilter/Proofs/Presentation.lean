import EventFilter.Proofs.Duration
import EventFilter.Proofs.PrintedData

/-! How a result is presented, and what does not depend on it. The format, silence and details are
matters of presentation: the exit code is the same whatever is asked for, and so is the answer in
either format. Only JSON has values that it cannot hold. -/
namespace EventFilter.Cli

/-- What a result answers, in either format. -/
def answerOf (command : String) (collected : List String) (durationMs : Nat)
    (result : Except Trouble Output) : Format → String
  | .json => (reportOf command collected durationMs result).toJson.render ++ "\n"
  | .table =>
    match result with
    | .ok output => Report.answer command output.data
    | .error _ => ""

/-- What is told of a failure under silence too. -/
def errorLine : Except Trouble Output → String
  | .ok _ => ""
  | .error trouble => trouble.info.line

theorem ended_errorLine (result : Except Trouble Output) : Text.Ended (errorLine result) := by
  cases result with
  | ok output => exact Text.ended_empty
  | error trouble => exact Text.ended_printLine _

section

variable {style : Style} {result : Except Trouble Output} {durationMs : Nat}

/-- As text, everything but the answer and the error goes to the error stream in whole lines, and
silence leaves none of them. -/
theorem conclude_table (format : style.format = .table) (presentable : Presentable result)
    (command : String) (collected : List String) :
    ∃ more, conclude style command collected durationMs result = .ok
        ⟨⟨answerOf command collected durationMs result .table, errorLine result ++ more⟩,
          exitOf result⟩ ∧
      Text.Ended more ∧ (style.quiet = true → more = "") := by
  cases result with
  | ok output =>
    obtain ⟨err, told, ended, silent⟩ :=
      Report.printData_showable presentable.toShowable style command
    have printed : conclude style command collected durationMs (.ok output) = _ :=
      conclude_ok_table format told
    generalize (reportOf command collected durationMs (.ok output)).warnings = warnings at printed
    refine ⟨err ++ (Report.printWarnings style warnings).err, ?_,
      Text.ended_append ended (Report.ended_printWarnings style warnings), fun quiet => ?_⟩
    · rw [printed, errorLine, String.empty_append]
      rfl
    · rw [silent quiet, Report.printWarnings_quiet quiet]
      rfl
  | error trouble => exact conclude_error_table format trouble

/-- Silence takes whole lines from the error stream, and nothing else. -/
theorem conclude_silenced {silenced : Style} (same : silenced.format = style.format)
    (quiet : silenced.quiet = true) (presentable : Presentable result)
    (brief : (Json.int durationMs).isWritable = true) (command : String) (collected : List String) :
    ∃ err silent,
      conclude style command collected durationMs result = .ok
        ⟨⟨answerOf command collected durationMs result style.format, err⟩, exitOf result⟩ ∧
      conclude silenced command collected durationMs result = .ok
        ⟨⟨answerOf command collected durationMs result style.format, silent⟩, exitOf result⟩ ∧
      (Text.lines silent.toList).Sublist (Text.lines err.toList) ∧
      match style.format with
      | .table => silent = errorLine result ∧ ∃ more, err = errorLine result ++ more
      | .json => err = "" := by
  cases format : style.format with
  | json =>
    rw [format] at same
    exact ⟨"", "", conclude_json format presentable brief, conclude_json same presentable brief,
      .refl _, rfl⟩
  | table =>
    rw [format] at same
    obtain ⟨more, told, ended, -⟩ := conclude_table format presentable command collected
    obtain ⟨none, quietly, -, silent⟩ := conclude_table same presentable command collected
    rw [silent quiet, String.append_empty] at quietly
    exact ⟨_, _, told, quietly, (ended_errorLine result).sublist ended, rfl, more, rfl⟩

/-- However a result is presented, the command ends with the same exit code and gives the same
answer. As JSON that is one line and nothing else; as text a failure gives none, and silence takes
lines from the error stream, but not the error. -/
theorem conclude_presented {start stop : Float}
    (timed : elapsedMs (.real start) (.real stop) = .ok durationMs)
    (presentable : Presentable result) (command : String) (collected : List String) :
    ∃ answer : Format → String,
      (∃ line, answer .json = line ++ "\n" ∧ '\n' ∉ line.toList) ∧
      (∀ trouble, result = .error trouble → answer .table = "") ∧
      ∀ style : Style, ∃ err silent,
        conclude style command collected durationMs result =
          .ok ⟨⟨answer style.format, err⟩, exitOf result⟩ ∧
        conclude { style with quiet := true } command collected durationMs result =
          .ok ⟨⟨answer style.format, silent⟩, exitOf result⟩ ∧
        (Text.lines silent.toList).Sublist (Text.lines err.toList) ∧
        match style.format with
        | .table => ∀ trouble, result = .error trouble →
            silent = trouble.info.line ∧ ∃ more, err = trouble.info.line ++ more
        | .json => err = "" := by
  refine ⟨answerOf command collected durationMs result, ⟨_, rfl, (Json.isLine_render _).newline⟩,
    ?_, fun style => ?_⟩
  · rintro trouble rfl
    rfl
  · obtain ⟨err, silent, told, quietly, fewer, rest⟩ := conclude_silenced
      (show ({ style with quiet := true } : Style).format = style.format from rfl) rfl presentable
      (writable_elapsedMs timed) command collected
    refine ⟨err, silent, told, quietly, fewer, Format.imp (fun error => ?_) id rest⟩
    rintro trouble rfl
    exact error

end

/-- An error with a hint that silence takes away, told a second and a quarter after the start. -/
theorem conclude_presented_hint : ∃ err,
    conclude { quiet := true } "test" ["w"] 1250
        (.error (.declared ⟨"io_error", "no disk", some "wait", some [("disk", .int 1)]⟩ 3)) =
      .ok ⟨⟨"", "I/O error: no disk\n"⟩, 3⟩ ∧
    conclude { verbosity := 2 } "test" ["w"] 1250
        (.error (.declared ⟨"io_error", "no disk", some "wait", some [("disk", .int 1)]⟩ 3)) =
      .ok ⟨⟨"", "I/O error: no disk\n" ++ err⟩, 3⟩ := by
  let info : ErrorInfo := ⟨"io_error", "no disk", some "wait", some [("disk", .int 1)]⟩
  have timed : elapsedMs (.real 1.5) (.real 2.75) = .ok 1250 := rfl
  have presentable : Presentable (.error (.declared info 3)) :=
    List.forall_mem_cons.2 ⟨⟨rfl, show 1 ≤ 255 by decide⟩, nofun⟩
  have line : info.line = "I/O error: no disk\n" := by
    have trimmed : Text.trim "io_error" = "io_error" := by decide
    have title : info.title = "I/O error" := by
      simp only [ErrorInfo.title, info, trimmed]
    have whole : Text.IsLine "I/O error: no disk" := by decide
    rw [ErrorInfo.line, title]
    exact Text.printLine_self whole
  obtain ⟨answer, -, table, styles⟩ := conclude_presented timed presentable "test" ["w"]
  obtain ⟨err, _, told, -, -, error⟩ := styles { verbosity := 2 }
  obtain ⟨_, silent, -, quietly, -, error'⟩ := styles {}
  have none : answer .table = "" := table _ rfl
  obtain ⟨more, loud⟩ : ∃ more, err = info.line ++ more := (error _ rfl).2
  have calm : silent = info.line := (error' _ rfl).1
  rw [line] at loud calm
  refine ⟨more, quietly.trans ?_, told.trans ?_⟩
  · rw [none, calm]
    rfl
  · rw [none, loud]
    rfl

/-- Empty lists in one another, so many around the innermost. -/
def nested : Nat → Json
  | 0 => .arr []
  | n + 1 => .arr [nested n]

theorem depth_nested (n : Nat) : (nested n).depth = n + 1 := by
  induction n with
  | zero => rfl
  | succ n ih => rw [nested, Json.depth, Json.depthOfItems, ih, Json.depthOfItems, Nat.max_zero]

theorem showable_nested (n : Nat) : (nested n).Showable := by
  induction n with
  | zero => exact ⟨trivial, rfl⟩
  | succ n ih =>
    refine ⟨⟨ih.unmarked, trivial⟩, ?_⟩
    rw [nested, Json.isWritable, Json.writableItems, ih.writable]
    rfl

/-- A number of one digit more than is written out. -/
def overlong : Json := .int (Decimal.pow10 Text.maxDigits)

theorem unwritable_overlong : overlong.isWritable = false := by
  rw [← Bool.not_eq_true, overlong, isWritable_int_iff]
  exact Nat.lt_irrefl _

/-- Lists that nest too deep for JSON, in the data and in the details of an error; a detail of too
many digits; and a clock that never gets there. -/
theorem not_conclude_presented :
    (nested 255).Showable ∧
      (∃ printed, conclude { format := .table } "test" [] 0 (.ok { data := nested 255 }) =
        .ok ⟨printed, 0⟩) ∧
      (∃ printed, conclude { format := .json } "test" [] 0 (.ok { data := nested 255 }) =
        .ok ⟨printed, 2⟩) ∧
      (∃ trouble, conclude { format := .json } "test" [] 0
        (.error (.declared ⟨"error", "m", none, some [("a", nested 255)]⟩ 1)) =
          .error trouble) ∧
      (∃ trouble, conclude { format := .json } "test" [] 0
        (.error (.declared ⟨"error", "m", none, some [("a", overlong)]⟩ 1)) =
          .error trouble) ∧
      elapsedMs (.real 0) (.real (.ofBits 0x7fe1ccf385ebc8a0)) = .error .endless := by
  have deep : Report.maxDepth < (nested 255).depth := by
    rw [depth_nested]
    decide
  refine ⟨showable_nested 255, ?_, ?_, ?_, ?_, rfl⟩
  · obtain ⟨err, told, -⟩ := Report.printData_showable (showable_nested 255)
      { format := .table } "test"
    exact ⟨_, conclude_ok_table rfl told⟩
  · have brief : (Json.int (0 : Nat)).isWritable = true := rfl
    have presentable : Presentable (.error PrintFault.tooDeep.trouble) := nofun
    have unfit : (reportOf "test" [] 0 (.ok { data := nested 255 })).jsonFault = some .tooDeep :=
      Report.jsonFault_tooDeep List.mem_cons_self deep
    exact ⟨_, (conclude_ok_fault rfl unfit).trans (conclude_json rfl presentable brief)⟩
  · exact ⟨_, conclude_error_fault rfl
      (Report.jsonFault_tooDeep (List.mem_cons_of_mem _ (List.mem_singleton_self _)) deep)⟩
  · obtain ⟨fault, unfit⟩ : ∃ fault, (reportOf "test" [] 0 (.error (.declared
        ⟨"error", "m", none, some [("a", overlong)]⟩ 1))).jsonFault = some fault :=
      Report.jsonFault_unwritable (Report.unwritable_toJson rfl
        (List.mem_singleton_self ("a", overlong)) unwritable_overlong)
    exact ⟨_, conclude_error_fault rfl unfit⟩

end EventFilter.Cli
