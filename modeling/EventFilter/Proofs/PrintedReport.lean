import EventFilter.Cli.Program
import EventFilter.Proofs.JsonText
import EventFilter.Proofs.WholeLines

/-! Reports as they come out. As JSON a report is one line from which everything in it can be read
back. The log keeps out of it: it never goes where the report goes, and what is only for debugging
is not shown unless it is asked for. -/
namespace EventFilter

namespace Log

/-- A record for debugging changes nothing on the terminal. -/
theorem Written.terminal_emit {verbosity : Int} (calm : verbosity ≤ 1) (path : Option String)
    (written : Written) {entry : Entry} (own : entry.isOwn = true) (low : entry.level = debug) :
    (written.emit (.configured verbosity path) entry).terminal = written.terminal := by
  have silent : debug < levelFor verbosity := by
    rw [levelFor, if_neg (by omega)]
    split <;> decide
  rw [Written.emit, own, low]
  cases path with
  | none =>
    have closed : debug < (Channel.configured verbosity none).threshold := by
      show debug < if levelFor verbosity = 0 then warning else levelFor verbosity
      split
      · decide
      · exact silent
    simp only [if_pos closed]
    rfl
  | some path =>
    have terminal : written.emitTo entry (.terminal (levelFor verbosity)) = written := by
      rw [Written.emitTo, low]
      exact if_pos silent
    have file : (written.emitTo entry (.file (plainPath path) debug)).terminal =
        written.terminal := by
      rw [Written.emitTo]
      split <;> rfl
    show ((written.emitTo entry (.terminal (levelFor verbosity))).emitTo entry
      (.file (plainPath path) debug)).terminal = written.terminal
    rw [terminal, file]

theorem Written.terminal_foldl {verbosity : Int} (calm : verbosity ≤ 1) (path : Option String)
    {entries : List Entry} (low : ∀ entry ∈ entries, entry.isOwn = true ∧ entry.level = debug)
    (written : Written) :
    (entries.foldl (Written.emit (.configured verbosity path)) written).terminal =
      written.terminal := by
  induction entries generalizing written with
  | nil => rfl
  | cons entry entries ih =>
    obtain ⟨⟨own, level⟩, rest⟩ := List.forall_mem_cons.1 low
    rw [List.foldl_cons, ih rest, terminal_emit calm path written own level]

end Log

namespace Json

theorem exactItems_texts (texts : List String) : ExactItems (texts.map .str) := by
  induction texts with
  | nil => trivial
  | cons text texts ih => exact ⟨trivial, ih⟩

theorem writableItems_texts (texts : List String) : writableItems (texts.map .str) = true := by
  induction texts with
  | nil => rfl
  | cons text texts ih => exact ih

theorem writableMembers_iff {members : List (String × Json)} :
    writableMembers members = true ↔ ∀ row ∈ members, row.2.isWritable = true := by
  induction members with
  | nil => simp [writableMembers]
  | cons row members ih =>
    obtain ⟨name, value⟩ := row
    simp [writableMembers, ih]

mutual

/-- No name in it holds a square bracket, with which markup begins and ends. -/
def Unmarked : Json → Prop
  | arr items => UnmarkedItems items
  | obj members => UnmarkedMembers members
  | null | bool _ | int _ | float _ | str _ => True

def UnmarkedItems : List Json → Prop
  | [] => True
  | item :: items => item.Unmarked ∧ UnmarkedItems items

def UnmarkedMembers : List (String × Json) → Prop
  | [] => True
  | (name, value) :: members =>
    ('[' ∉ name.toList ∧ ']' ∉ name.toList) ∧ value.Unmarked ∧ UnmarkedMembers members

end

theorem UnmarkedMembers.plain {members : List (String × Json)}
    (unmarked : UnmarkedMembers members) : ∀ row ∈ members, '[' ∉ row.1.toList := by
  induction members with
  | nil => nofun
  | cons row members ih => exact List.forall_mem_cons.2 ⟨unmarked.1.1, ih unmarked.2.2⟩

/-- It can be shown as text: names are no markup, and integers are not too long to be written. -/
structure Showable (data : Json) : Prop where
  unmarked : data.Unmarked
  writable : data.isWritable = true

/-- It can be shown in either format: for JSON values must not nest too deep either. -/
structure Presentable (data : Json) : Prop extends data.Showable where
  shallow : data.depth ≤ Cli.Report.maxDepth

end Json

namespace Cli

/-- What is known of each format goes over to the one that was chosen. -/
theorem Format.imp {format : Format} {table json table' json' : Prop} (inTable : table → table')
    (inJson : json → json') : (match format with | .table => table | .json => json) →
      match format with | .table => table' | .json => json' := by
  cases format with
  | table => exact inTable
  | json => exact inJson

theorem title_filter (message : String) (source : Option String) :
    (Trouble.filter message source).info.title = "Invalid filter" := by
  have trimmed : Text.trim "invalid_filter" = "invalid_filter" := by decide
  simp only [ErrorInfo.title, Trouble.info, trimmed]

/-- The output is a single line, from which a report of these parts is read back. -/
def ReadsBack (out : String) (ok : Bool) (command : String) (data : Json)
    (warnings : List String) (error : Json) : Prop :=
  ∃ line, ∃ time : Nat, out = line ++ "\n" ∧ '\n' ∉ line.toList ∧
    Json.parse line = some (.obj [("ok", .bool ok), ("command", .str command), ("data", data),
      ("warnings", .arr (warnings.map .str)), ("meta", .obj [("durationMs", .int time)]),
      ("error", error)])

theorem printed_append (a b : Printed) : a ++ b = ⟨a.out ++ b.out, a.err ++ b.err⟩ := rfl

theorem andThen_printed (a b : Printed) :
    ({ printed := a } : Printing).andThen { printed := b } = { printed := a ++ b } := rfl

/-- The title and the message of an error, as they are printed. -/
def ErrorInfo.line (info : ErrorInfo) : String :=
  Text.printLine (info.title ++ ": " ++ info.message)

namespace Report

variable {style : Style}

theorem printWarnings_eq (style : Style) (warnings : List String) :
    ∃ text, printWarnings style warnings = { err := text } := by
  unfold printWarnings
  split <;> exact ⟨_, rfl⟩

theorem printWarnings_quiet (quiet : style.quiet = true) (warnings : List String) :
    printWarnings style warnings = {} := by
  rw [printWarnings, if_pos quiet]

/-- Silence takes the hint away and leaves the error. -/
theorem printError_eq (style : Style) (info : ErrorInfo) : ∃ hint,
    printError style (some info) = { err := info.line ++ hint } ∧
      Text.Ended hint ∧ (style.quiet = true → hint = "") := by
  refine ⟨_, rfl, ?_, fun quiet => ?_⟩
  · split
    · split
      · exact Text.ended_empty
      · exact Text.ended_printLine _
    · exact Text.ended_empty
  · cases info.hint with
    | none => rfl
    | some hint => simp [quiet]

variable (report : Report)

/-- A failure is told on the error stream, its title and message before anything else; under silence
there is nothing else. -/
theorem print_failure (format : style.format = .table) (failed : report.ok = false)
    {info : ErrorInfo} (known : report.error = some info) :
    ∃ more, report.print style = { printed := { err := info.line ++ more } } ∧
      Text.Ended more ∧ (style.quiet = true → more = "") := by
  obtain ⟨hint, error, ended, silent⟩ := printError_eq style info
  obtain ⟨warned, warnings⟩ := printWarnings_eq style report.warnings
  have ended' := ended_printWarnings style report.warnings
  rw [warnings] at ended'
  refine ⟨hint ++ warned, ?_, Text.ended_append ended ended', fun quiet => ?_⟩
  · rw [print, format]
    simp only [failed, known, error, warnings, andThen_printed, printed_append, Bool.false_eq_true,
      if_false, String.append_assoc, String.append_empty]
  · rw [printWarnings_quiet quiet, Printed.mk.injEq] at warnings
    rw [silent quiet, ← warnings.2, String.append_empty]

/-- Warnings are told after the answer, and on the other stream. -/
theorem print_success (format : style.format = .table) (ok : report.ok = true) {out err : String}
    (told : printData style report.command report.data = { printed := ⟨out, err⟩ }) :
    report.print style =
      { printed := ⟨out, err ++ (printWarnings style report.warnings).err⟩ } := by
  obtain ⟨warned, warnings⟩ := printWarnings_eq style report.warnings
  rw [print, format]
  simp only [ok, told, warnings, andThen_printed, printed_append, if_true, String.append_empty]

/-- Only what nests too deep or has too many digits is not written. -/
theorem jsonFault_none (shallow : report.data.depth ≤ maxDepth)
    (shallows : ∀ detail ∈ (report.error.bind (·.details)).getD [], detail.2.depth ≤ maxDepth)
    (writable : report.toJson.isWritable = true) : report.jsonFault = none := by
  have values : (report.data :: ((report.error.bind (·.details)).getD []).map fun detail =>
      detail.2).any (fun value => maxDepth < value.depth) = false := by
    rw [List.any_eq_false, List.forall_mem_cons, List.forall_mem_map]
    simp only [decide_eq_true_eq, Nat.not_lt]
    exact ⟨shallow, shallows⟩
  rw [jsonFault]
  simp only [values, writable]
  rfl

theorem isWritable_toJson (data : report.data.isWritable = true)
    (error : (optional ErrorInfo.toJson report.error).isWritable = true)
    (brief : (Json.int report.durationMs).isWritable = true) : report.toJson.isWritable = true := by
  have warnings : (Json.arr (report.warnings.map .str)).isWritable = true :=
    Json.writableItems_texts report.warnings
  have time : (Json.obj [("durationMs", .int report.durationMs)]).isWritable = true := by
    rw [Json.isWritable, Json.writableMembers, brief]
    rfl
  rw [toJson, Json.isWritable]
  simp only [Json.writableMembers, data, warnings, time, error, Bool.and_true]
  rfl

theorem print_json (format : style.format = .json) (sound : report.jsonFault = none) :
    report.print style = { printed := { out := report.toJson.render ++ "\n" } } := by
  rw [print, format]
  simp only [sound]

theorem print_fault (format : style.format = .json) {fault : PrintFault}
    (unfit : report.jsonFault = some fault) : report.print style = { fault := some fault } := by
  rw [print, format]
  simp only [unfit]

theorem jsonFault_tooDeep {report : Report} {value : Json}
    (mem : value ∈ report.data :: ((report.error.bind (·.details)).getD []).map (·.2))
    (deep : maxDepth < value.depth) : report.jsonFault = some .tooDeep := by
  have found : (report.data :: ((report.error.bind (·.details)).getD []).map (·.2)).any
      (fun value => maxDepth < value.depth) = true :=
    List.any_eq_true.2 ⟨value, mem, decide_eq_true deep⟩
  rw [jsonFault]
  exact if_pos found

theorem unwritable_toJson {report : Report} {info : ErrorInfo} (failed : report.error = some info)
    {detail : String × Json} (mem : detail ∈ info.details.getD [])
    (long : detail.2.isWritable = false) : report.toJson.isWritable = false := by
  rw [← Bool.not_eq_true]
  intro writable
  have error := Json.writableMembers_iff.1 writable
    ("error", optional ErrorInfo.toJson report.error) (by simp)
  rw [failed] at error
  have details := Json.writableMembers_iff.1 error ("details", optional Json.obj info.details)
    (by simp)
  cases told : info.details with
  | none =>
    rw [told] at mem
    contradiction
  | some rows =>
    rw [told] at mem details
    have short := Json.writableMembers_iff.1 details detail mem
    rw [long] at short
    contradiction

theorem jsonFault_unwritable {report : Report} (long : report.toJson.isWritable = false) :
    ∃ fault, report.jsonFault = some fault := by
  rw [jsonFault, long]
  split
  · exact ⟨_, rfl⟩
  · exact ⟨_, rfl⟩

theorem exact_toJson (data : report.data.Exact)
    (error : (optional ErrorInfo.toJson report.error).Exact) : report.toJson.Exact := by
  refine ⟨by simp, trivial, trivial, data, ?_, ?_, error, trivial⟩
  · exact Json.exactItems_texts report.warnings
  · exact ⟨by simp, trivial, trivial⟩

theorem readsBack_toJson (data : report.data.Exact)
    (error : (optional ErrorInfo.toJson report.error).Exact) :
    ReadsBack (report.toJson.render ++ "\n") report.ok report.command report.data report.warnings
      (optional ErrorInfo.toJson report.error) := by
  refine ⟨report.toJson.render, report.durationMs, rfl, (Json.isLine_render _).newline, ?_⟩
  rw [Json.parse_render (exact_toJson report data error)]
  rfl

end Report

/-- The report that a result calls for. -/
def reportOf (command : String) (collected : List String) (durationMs : Nat) :
    Except Trouble Output → Report
  | .ok output => ⟨true, command, output.data,
      if output.warnings.isEmpty then collected else output.warnings, durationMs, none⟩
  | .error trouble => ⟨false, command, .null, collected, durationMs, some trouble.info⟩

def exitOf : Except Trouble Output → Int
  | .ok output => output.exit
  | .error trouble => trouble.exit

/-- No detail is too long to be written or nests too deep. -/
def ErrorInfo.Presentable (info : ErrorInfo) : Prop :=
  ∀ detail ∈ info.details.getD [], detail.2.isWritable = true ∧ detail.2.depth ≤ Report.maxDepth

theorem ErrorInfo.Presentable.writable {info : ErrorInfo} (presentable : info.Presentable) :
    info.toJson.isWritable = true := by
  have hint : (optional Json.str info.hint).isWritable = true := by
    cases info.hint <;> rfl
  have details : (optional Json.obj info.details).isWritable = true := by
    cases shown : info.details with
    | none => rfl
    | some details =>
      rw [ErrorInfo.Presentable, shown] at presentable
      exact Json.writableMembers_iff.2 fun detail mem => (presentable detail mem).1
  rw [toJson, Json.isWritable]
  simp only [Json.writableMembers, hint, details, Bool.and_true]
  rfl

def Presentable : Except Trouble Output → Prop
  | .ok output => output.data.Presentable
  | .error trouble => trouble.info.Presentable

section

variable {style : Style} {command : String} {collected : List String} {durationMs : Nat}
  {result : Except Trouble Output} {printed : Printed}

/-- A report that can be printed is the end of it. -/
theorem conclude_printed
    (told : (reportOf command collected durationMs result).print style = { printed }) :
    conclude style command collected durationMs result = .ok ⟨printed, exitOf result⟩ := by
  cases result with
  | ok output =>
    rw [reportOf] at told
    rw [conclude]
    simp only [told]
    rfl
  | error trouble =>
    rw [reportOf] at told
    rw [conclude, fail]
    simp only [told, printed_append, String.empty_append]
    rfl

/-- Data that JSON cannot hold is an error of its own, whatever exit code came with it. -/
theorem conclude_ok_fault (format : style.format = .json) {output : Output} {fault : PrintFault}
    (unfit : (reportOf command collected durationMs (.ok output)).jsonFault = some fault) :
    conclude style command collected durationMs (.ok output) =
      conclude style command collected durationMs (.error fault.trouble) := by
  have printed := Report.print_fault _ format unfit
  have failing : conclude style command collected durationMs (.error fault.trouble) =
      fail style command collected durationMs {} fault.trouble := rfl
  rw [reportOf] at printed
  rw [failing, conclude]
  simp only [printed]

/-- An error that JSON cannot hold is not reported at all. -/
theorem conclude_error_fault (format : style.format = .json) {trouble : Trouble}
    {fault : PrintFault}
    (unfit : (reportOf command collected durationMs (.error trouble)).jsonFault = some fault) :
    conclude style command collected durationMs (.error trouble) = .error fault.trouble := by
  have printed := Report.print_fault _ format unfit
  rw [reportOf] at printed
  rw [conclude, fail]
  simp only [printed]

theorem jsonFault_reportOf (presentable : Presentable result)
    (brief : (Json.int durationMs).isWritable = true) :
    (reportOf command collected durationMs result).jsonFault = none := by
  cases result with
  | ok output =>
    have writable := Report.isWritable_toJson (reportOf command collected durationMs (.ok output))
      presentable.writable rfl brief
    exact Report.jsonFault_none _ presentable.shallow nofun writable
  | error trouble =>
    have writable := Report.isWritable_toJson
      (reportOf command collected durationMs (.error trouble)) rfl presentable.writable brief
    exact Report.jsonFault_none _ (show 1 ≤ 255 by decide)
      (fun detail mem => (presentable detail mem).2) writable

theorem conclude_json (format : style.format = .json) (presentable : Presentable result)
    (brief : (Json.int durationMs).isWritable = true) :
    conclude style command collected durationMs result = .ok
      ⟨{ out := (reportOf command collected durationMs result).toJson.render ++ "\n" },
        exitOf result⟩ :=
  conclude_printed (Report.print_json _ format (jsonFault_reportOf presentable brief))

theorem conclude_ok_table (format : style.format = .table) {output : Output} {out err : String}
    (told : Report.printData style command output.data = { printed := ⟨out, err⟩ }) :
    conclude style command collected durationMs (.ok output) = .ok
      ⟨⟨out, err ++ (Report.printWarnings style
        (reportOf command collected durationMs (.ok output)).warnings).err⟩, output.exit⟩ :=
  conclude_printed (Report.print_success _ format rfl told)

/-- The report of a failure can always be printed as text. -/
theorem conclude_error_table (format : style.format = .table) (trouble : Trouble) :
    ∃ more, conclude style command collected durationMs (.error trouble) = .ok
      ⟨{ err := trouble.info.line ++ more }, trouble.exit⟩ ∧
        Text.Ended more ∧ (style.quiet = true → more = "") := by
  obtain ⟨more, told, rest⟩ := Report.print_failure
    (reportOf command collected durationMs (.error trouble)) format rfl rfl
  exact ⟨more, conclude_printed told, rest⟩

end
end Cli
end EventFilter
