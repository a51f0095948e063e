import EventFilter.Proofs.PlainTable
import EventFilter.Proofs.PrintedReport

/-! Data as it comes out. What a command answers goes to the output stream whoever asked; details go
to the other stream, and under silence there are none. -/
namespace EventFilter.Cli.Report

variable {style : Style}

/-- What of the data goes to the output stream. -/
def answer (command : String) (data : Json) : String :=
  (printData { quiet := true } command data).printed.out

/-- Under silence there are no details. -/
theorem andThen_quiet (out : String) (details : Printing) :
    (({ printed := { out } } : Printing).andThen
      (Report.details { quiet := true } details)).printed.out = out :=
  String.append_empty

theorem onStream_ok {stream : String → Printed} {result : Except PrintFault String} {text : String}
    (shown : result = .ok text) : onStream stream result = { printed := stream text } := by
  rw [shown]
  rfl

/-- Details leave the answer as it is. -/
theorem andThen_details (style : Style) (out : String) {text : String} (ended : Text.Ended text) :
    ∃ err, ({ printed := { out } } : Printing).andThen
        (details style { printed := { err := text } }) = { printed := ⟨out, err⟩ } ∧
      Text.Ended err ∧ (style.quiet = true → err = "") := by
  cases asked : Style.wantsDetails style with
  | false =>
    refine ⟨"", ?_, Text.ended_empty, fun _ => rfl⟩
    rw [details, asked, if_neg Bool.false_ne_true, andThen_printed, printed_append,
      String.append_empty, String.append_empty]
  | true =>
    refine ⟨text, ?_, ended, fun quiet => ?_⟩
    · rw [details, asked, if_pos rfl, andThen_printed, printed_append, String.append_empty,
        String.empty_append]
    · rw [Style.wantsDetails, quiet, Bool.not_true, Bool.and_false] at asked
      contradiction

theorem shown_of_writable {data : List (String × Json)}
    (writable : ∀ row ∈ data, row.2.isWritable = true) (name : String) :
    ∃ text, shown data name = .ok text := by
  unfold shown
  split
  · next value found =>
    obtain ⟨before, after, parts, -⟩ := List.lookup_eq_some_iff.1 found
    have mem : (name, value) ∈ data := by
      rw [parts]
      exact List.mem_append_cons_self
    exact ⟨_, written_of_writable (writable _ mem)⟩
  · exact ⟨"", rfl⟩

theorem answer_compile {data : List (String × Json)} {text : String}
    (told : shown data "query" = .ok text) :
    answer "compile" (.obj data) = Text.printLine text := by
  simp only [answer, printData]
  rw [onStream_ok told, lineOut, andThen_quiet]

theorem answer_match (data : List (String × Json)) :
    answer "match" (.obj data) = Text.printLine (verdict data) := by
  simp only [answer, printData]
  rw [lineOut, andThen_quiet]

/-- Data that can be shown is shown, and the answer is the same in every style. What is told beside
it is whole lines. -/
theorem printData_showable {data : Json} (showable : data.Showable) (style : Style)
    (command : String) : ∃ err, printData style command data =
      { printed := ⟨answer command data, err⟩ } ∧ Text.Ended err ∧
        (style.quiet = true → err = "") := by
  have nothing : Text.Ended "" ∧ (style.quiet = true → "" = "") := ⟨Text.ended_empty, fun _ => rfl⟩
  unfold answer printData
  split
  case h_1 => exact ⟨"", rfl, nothing⟩
  case h_2 rows =>
    obtain ⟨text, told⟩ :=
      shown_of_writable (Json.writableMembers_iff.1 showable.writable) "version"
    rw [onStream_ok told]
    exact ⟨"", rfl, nothing⟩
  case h_3 rows =>
    have writable := Json.writableMembers_iff.1 showable.writable
    obtain ⟨query, told⟩ := shown_of_writable writable "query"
    have kept : ∀ row ∈ rows.filter (·.1 != "query"), row ∈ rows :=
      fun row mem => (List.mem_filter.1 mem).1
    obtain ⟨others, listed⟩ := members_plain
      (fun row mem => showable.unmarked.plain row (kept row mem))
      fun row mem => writable row (kept row mem)
    dsimp only
    rw [onStream_ok told, onStream_ok listed, lineOut, andThen_quiet]
    exact andThen_details style (Text.printLine query) (ended_members listed)
  case h_4 rows =>
    have writable := Json.writableMembers_iff.1 showable.writable
    obtain ⟨query, told⟩ := shown_of_writable writable "query"
    rw [onStream_ok told, lineOut, lineErr, andThen_quiet]
    exact andThen_details style (Text.printLine (verdict rows)) (Text.ended_printLine query)
  case h_5 rows =>
    obtain ⟨text, listed⟩ := members_plain showable.unmarked.plain
      (Json.writableMembers_iff.1 showable.writable)
    rw [onStream_ok listed]
    exact ⟨"", rfl, nothing⟩
  case h_6 =>
    rw [onStream_ok (written_of_writable showable.writable)]
    exact ⟨"", rfl, nothing⟩

end EventFilter.Cli.Report
