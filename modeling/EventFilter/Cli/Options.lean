import EventFilter.Cli.Usage

/-! Reading options. A vocabulary says which names there are. A token that starts with a hyphen is
looked up whole, up to an equals sign that gives it a value; failing that, one with a single hyphen
is a bundle of letters. What no name fits is an error or, where a filter may start with a hyphen,
an argument. -/
namespace EventFilter.Cli

structure Vocabulary (κ : Type) where
  names : List (String × κ)
  letters : List (Char × κ)
  takesValue : κ → Bool
  /-- Options may follow arguments. -/
  interspersed : Bool
  keepsUnknown : Bool

/-- Options as given, in order, and the arguments among and after them. -/
structure Reading (κ : Type) where
  options : List (κ × String)
  arguments : List String

def Reading.empty : Reading κ := ⟨[], []⟩

def Reading.option (reading : Reading κ) (key : κ) (value : String) : Reading κ :=
  ⟨reading.options ++ [(key, value)], reading.arguments⟩

def Reading.argument (reading : Reading κ) (text : String) : Reading κ :=
  ⟨reading.options, reading.arguments ++ [text]⟩

def isOption (token : String) : Bool :=
  match token.toList with
  | '-' :: _ :: _ => true
  | _ => false

/-- A name, and the value after the first equals sign. -/
def splitValue (token : String) : String × Option String :=
  let cs := token.toList
  match cs.dropWhile (· != '=') with
  | [] => (token, none)
  | _ :: value => (String.ofList (cs.takeWhile (· != '=')), some (String.ofList value))

namespace Vocabulary

/-- Letters that are known are options; the others stay together. A letter is too short to be a
mistyped name. -/
def bundle (v : Vocabulary κ) : List Char → Except UsageError (List κ × List Char)
  | [] => .ok ([], [])
  | c :: cs =>
    match v.letters.lookup c with
    | some key => (v.bundle cs).map fun (keys, unknown) => (key :: keys, unknown)
    | none =>
      if v.keepsUnknown then (v.bundle cs).map fun (keys, unknown) => (keys, c :: unknown)
      else .error (.unknownOption (String.ofList ['-', c]) [])

def readUnknown (v : Vocabulary κ) (token name : String) (reading : Reading κ) :
    Except UsageError (Reading κ) :=
  match token.toList with
  | '-' :: '-' :: _ =>
    if v.keepsUnknown then .ok (reading.argument token)
    else .error (.unknownOption name (v.names.map (·.1)))
  | _ :: cs => do
    let (keys, unknown) ← v.bundle cs
    let reading := keys.foldl (fun reading key => reading.option key "") reading
    return if unknown.isEmpty then reading else reading.argument (String.ofList ('-' :: unknown))
  | [] => .ok reading

def read (v : Vocabulary κ) (reading : Reading κ) : List String → Except UsageError (Reading κ)
  | [] => .ok reading
  | token :: tokens =>
    if token = "--" then .ok ⟨reading.options, reading.arguments ++ tokens⟩
    else if isOption token then
      let (name, value) := splitValue token
      match v.names.lookup name with
      | none => do v.read (← v.readUnknown token name reading) tokens
      | some key =>
        if v.takesValue key then
          match value, tokens with
          | some value, tokens => v.read (reading.option key value) tokens
          | none, value :: tokens => v.read (reading.option key value) tokens
          | none, [] => .error (.needsValue name)
        else if value.isSome then .error (.takesNoValue name)
        else v.read (reading.option key "") tokens
    else if v.interspersed then v.read (reading.argument token) tokens
    else .ok ⟨reading.options, reading.arguments ++ token :: tokens⟩

end Vocabulary

/-- The value given last, or the given one if there is no other. -/
def lastValue [DecidableEq κ] (key : κ) (value : String) (options : List (κ × String)) : String :=
  options.foldl (fun value option => if option.1 = key then option.2 else value) value

/-- Each option once, where it first stands, with the value given last. -/
def settle [DecidableEq κ] : List (κ × String) → List (κ × String)
  | [] => []
  | (key, value) :: options =>
    (key, lastValue key value options) :: (settle options).filter (·.1 ≠ key)

theorem mem_keys_settle [DecidableEq κ] {key : κ} {options : List (κ × String)} :
    key ∈ (settle options).map (·.1) ↔ key ∈ options.map (·.1) := by
  induction options with
  | nil => simp [settle]
  | cons option options ih =>
    obtain ⟨k, v⟩ := option
    by_cases h : key = k
    · simp [settle, h]
    · simp only [List.mem_map, Prod.exists, exists_and_right, exists_eq_right] at ih
      simp [settle, h, ← ih]

theorem nodup_keys_settle [DecidableEq κ] (options : List (κ × String)) :
    ((settle options).map (·.1)).Nodup := by
  induction options with
  | nil => simp [settle]
  | cons option options ih =>
    simp only [settle, List.map_cons, List.nodup_cons]
    refine ⟨by simp, ?_⟩
    exact ih.sublist (List.filter_sublist.map _)

end EventFilter.Cli
