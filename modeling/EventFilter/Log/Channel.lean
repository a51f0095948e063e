import EventFilter.Log.Entry
import EventFilter.Log.Path
import EventFilter.Text.Table

/-! Where log records go. A channel lets through what reaches its level, and each of its sinks takes
what reaches its own. Sinks keep no state, and files are only ever appended to, so a sink that is
put back after a while goes on as before. Records of other loggers never come to the channel. -/
namespace EventFilter.Log

inductive Sink where
  | terminal (level : Nat)
  | file (path : String) (level : Nat)
  deriving DecidableEq, Repr

def Sink.level : Sink → Nat
  | terminal level | file _ level => level

structure Channel where
  level : Nat
  propagates : Bool
  sinks : List Sink
  deriving DecidableEq, Repr

/-- Before anything is configured there is no level and no sink. -/
def Channel.initial : Channel := ⟨0, true, []⟩

/-- Without a level of its own a channel takes the usual one. -/
def Channel.threshold (channel : Channel) : Nat :=
  if channel.level = 0 then warning else channel.level

def levelFor (verbosity : Int) : Nat :=
  if verbosity ≥ 2 then debug else if verbosity = 1 then info else warning

/-- A file takes everything, so with one the channel lets everything through and the terminal
keeps the others out itself. -/
def Channel.configured (verbosity : Int) (path : Option String) : Channel where
  level := if path.isSome then debug else levelFor verbosity
  propagates := false
  sinks := .terminal (levelFor verbosity)
    :: path.toList.map fun path => .file (plainPath path) debug

/-- Log files, each with the entries that were added to it. -/
abbrev Files := List (String × List Entry)

/-- Lines on the terminal, and files in the order in which they were opened. -/
structure Written where
  terminal : List String := []
  files : Files := []
  deriving DecidableEq, Repr

def Files.add (path : String) (entries : List Entry) : Files → Files
  | [] => [(path, entries)]
  | file :: files =>
    if file.1 = path then (path, file.2 ++ entries) :: files
    else file :: Files.add path entries files

theorem Files.lookup_add (path : String) (entries : List Entry) (files : Files) (other : String) :
    (files.add path entries).lookup other =
      if other = path then some ((files.lookup path).getD [] ++ entries)
      else files.lookup other := by
  induction files with
  | nil =>
    by_cases h : other = path <;>
      simp [Files.add, List.lookup_cons, List.lookup_nil, beq_eq_false_iff_ne.2, h]
  | cons file files ih =>
    obtain ⟨k, v⟩ := file
    by_cases hk : k = path <;> by_cases h : other = path
    · simp [Files.add, hk, h]
    · simp [Files.add, hk, h, List.lookup_cons, beq_eq_false_iff_ne.2 h]
    · have apart : path ≠ k := fun e => hk e.symm
      simp_all [Files.add, List.lookup_cons, beq_eq_false_iff_ne.2 apart]
    · by_cases ho : other = k <;> simp_all [Files.add, List.lookup_cons]

/-- Opening a file makes it, and keeps what is in it. -/
def Written.opened (written : Written) (path : Option String) : Written :=
  match path with
  | none => written
  | some path => { written with files := Files.add (plainPath path) [] written.files }

/-- No level has fewer columns than this. -/
def levelWidth : Nat := 8

/-- The level in a column of its own, as wide as its name, a blank, and the message beside it in what
is left of the terminal. -/
def Entry.terminalLines (entry : Entry) : List String :=
  let level := (Text.Styled.plain (levelName entry.level).toList).padTo levelWidth
  let taken := level.text.length + 1
  let message := Text.wrap (Text.terminalWidth - taken) .fold
    (.plain (Text.withoutControls entry.message.toList))
  (Text.rowLines taken 0 [level.text ++ [' ']] (message.map (·.text))).map String.ofList

/-- What a file shows of an entry. -/
def Entry.fileText (entry : Entry) : String :=
  levelName entry.level ++ " " ++ entry.logger ++ ": " ++ entry.message

def Written.emitTo (entry : Entry) (written : Written) (sink : Sink) : Written :=
  if entry.level < sink.level then written
  else
    match sink with
    | .terminal _ => { written with terminal := written.terminal ++ entry.terminalLines }
    | .file path _ => { written with files := Files.add path [entry] written.files }

def Written.emitBare (written : Written) (entry : Entry) : Written :=
  if entry.level < warning then written
  else { written with terminal := written.terminal ++ [entry.message] }

/-- Without sinks what is urgent still reaches the terminal, bare; so do the records of other
loggers. -/
def Written.emit (channel : Channel) (written : Written) (entry : Entry) : Written :=
  if !entry.isOwn then written.emitBare entry
  else if entry.level < channel.threshold then written
  else if channel.sinks.isEmpty then written.emitBare entry
  else channel.sinks.foldl (Written.emitTo entry) written

end EventFilter.Log
