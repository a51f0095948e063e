import EventFilter.Proofs.CommandLine

/-! Flags that stand for another option with a value of its own. Such a flag can be spelled out
wherever it is read as an option, and the rest of the command line is read as before. -/
namespace EventFilter

open Outcome

namespace Cli

namespace Vocabulary

variable {κ : Type} {v : Vocabulary κ}

/-- Letters that are read are those of the vocabulary, and all are read if none may be kept. -/
theorem mem_bundle {cs unknown : List Char} {keys : List κ}
    (read : v.bundle cs = .ok (keys, unknown)) :
    (∀ key ∈ keys, ∃ entry ∈ v.letters, entry.2 = key) ∧
      (v.keepsUnknown = false → unknown = []) := by
  induction cs generalizing keys unknown with
  | nil =>
    cases read
    exact ⟨nofun, fun _ => rfl⟩
  | cons c cs ih =>
    simp only [bundle] at read
    split at read
    · next key found =>
      obtain ⟨⟨others, unknown⟩, later, made⟩ := map_eq_ok.1 read
      cases made
      obtain ⟨before, after, letters, -⟩ := List.lookup_eq_some_iff.1 found
      have mem : (c, key) ∈ v.letters := letters ▸ List.mem_append_cons_self
      exact ⟨List.forall_mem_cons.2 ⟨⟨_, mem, rfl⟩, (ih later).1⟩, (ih later).2⟩
    · split at read
      · next keeps =>
        obtain ⟨⟨others, unknown⟩, later, made⟩ := map_eq_ok.1 read
        cases made
        exact ⟨(ih later).1, fun none => absurd keeps (by rw [none]; decide)⟩
      · contradiction

theorem readUnknown_arguments (keeps : v.keepsUnknown = false) {token name : String}
    {r next : Reading κ} (read : v.readUnknown token name r = .ok next) :
    next.arguments = r.arguments := by
  unfold readUnknown at read
  split at read
  · rw [keeps] at read
    contradiction
  · obtain ⟨⟨keys, unknown⟩, found, made⟩ := bind_eq_ok.1 read
    obtain rfl := (mem_bundle found).2 keeps
    cases made
    simp only [foldl_option]
    rfl
  · cases read
    rfl

end Vocabulary

/-- A flag of a vocabulary, and the option and the value that it stands for. -/
structure Alias {κ : Type} (v : Vocabulary κ) where
  flag : κ
  key : κ
  name : String
  value : String
  regular : v.Regular
  known : v.names.lookup name = some key
  takes : v.takesValue key = true
  bare : v.takesValue flag = false
  whole : ∀ entry ∈ v.letters, entry.2 ≠ flag

namespace Alias

variable {κ : Type} {v : Vocabulary κ} {a : Alias v}

theorem ne_flag {key : κ} (takes : v.takesValue key = true) : key ≠ a.flag := by
  rintro rfl
  rw [a.bare] at takes
  contradiction

variable [DecidableEq κ] (a)

def spellOut (option : κ × String) : κ × String :=
  if option.1 = a.flag then (a.key, a.value) else option

/-- Tokens with the flag spelled out. It is a flag only where an option is expected, so a value is
left alone. What follows the options is left to `rest`. -/
def respell (rest : List String → List String) : List String → List String
  | [] => []
  | token :: tokens =>
    if token = "--" then token :: rest tokens
    else if isOption token then
      let (name, value) := splitValue token
      match v.names.lookup name with
      | none => token :: respell rest tokens
      | some key =>
        if v.takesValue key then
          match value, tokens with
          | none, value :: tokens => token :: value :: respell rest tokens
          | _, tokens => token :: respell rest tokens
        else if key = a.flag ∧ value = none then a.name :: a.value :: respell rest tokens
        else token :: respell rest tokens
    else if v.interspersed then token :: respell rest tokens
    else rest (token :: tokens)

def reading (rest : List String → List String) (reading : Reading κ) : Reading κ :=
  ⟨reading.options.map a.spellOut, rest reading.arguments⟩

variable {a} {rest : List String → List String}

theorem spellOut_flag (value : String) : a.spellOut (a.flag, value) = (a.key, a.value) :=
  if_pos rfl

theorem spellOut_other {key : κ} (other : key ≠ a.flag) (value : String) :
    a.spellOut (key, value) = (key, value) := if_neg other

theorem reading_flag (value : String) (r : Reading κ) :
    (a.reading rest r).option a.key a.value = a.reading rest (r.option a.flag value) := by
  simp only [reading, Reading.option, List.map_append, List.map_cons, List.map_nil,
    spellOut_flag]

theorem reading_other {key : κ} (other : key ≠ a.flag) (value : String) (r : Reading κ) :
    (a.reading rest r).option key value = a.reading rest (r.option key value) := by
  simp only [reading, Reading.option, List.map_append, List.map_cons, List.map_nil,
    spellOut_other other]

/-- What no name fits is read as before: the flag has a name but no letter. -/
theorem readUnknown_respell (same : v.keepsUnknown = true → rest = id) (token name : String)
    (r : Reading κ) : v.readUnknown token name (a.reading rest r) =
      (v.readUnknown token name r).map (a.reading rest) := by
  unfold Vocabulary.readUnknown
  split
  · split
    · next keeps =>
      rw [same keeps]
      rfl
    · rfl
  · next cs _ _ =>
    cases read : v.bundle cs with
    | error error => rfl
    | ok found =>
      obtain ⟨keys, unknown⟩ := found
      obtain ⟨lettered, all⟩ := Vocabulary.mem_bundle read
      have others : (keys.map (·, "")).map a.spellOut = keys.map (·, "") := by
        rw [List.map_map]
        refine List.map_congr_left fun key mem => spellOut_other ?_ ""
        obtain ⟨entry, known, rfl⟩ := lettered key mem
        exact a.whole entry known
      simp only [ok_bind, Vocabulary.foldl_option]
      cases keeps : v.keepsUnknown with
      | false =>
        rw [all keeps]
        simp [reading, pure, Except.pure, Except.map, others]
      | true =>
        rw [same keeps]
        cases unknown with
        | nil => simp [reading, pure, Except.pure, Except.map, others]
        | cons c cs => simp [reading, Reading.argument, pure, Except.pure, Except.map, others]
  · rfl

/-- What is read is the same, spelled out. -/
theorem read_respell (same : v.interspersed = true ∨ v.keepsUnknown = true → rest = id)
    (starts : ∀ token tokens, isOption token = false →
      ∃ others, rest (token :: tokens) = token :: others)
    {r : Reading κ}
    (joint : ∀ tokens, rest (r.arguments ++ tokens) = rest r.arguments ++ rest tokens)
    (tokens : List String) :
    v.read (a.reading rest r) (a.respell rest tokens) =
      (v.read r tokens).map (a.reading rest) := by
  -- Options leave `joint` as it is. Only what may keep arguments among them adds to these, and there
  -- the rest stays as it stands.
  fun_induction v.read r tokens with
  | case1 r => rfl
  | case2 r tokens =>
    rw [respell, if_pos rfl, Vocabulary.read_arguments]
    simp only [Except.map, reading, joint]
  | case3 r token tokens inside option name value split unknown ih =>
    simp only [respell, Vocabulary.read, if_neg inside, if_pos option, split, unknown]
    rw [readUnknown_respell fun keeps => same (.inr keeps)]
    cases read : v.readUnknown token name r with
    | error error => rfl
    | ok next =>
      refine ih next ?_
      cases keeps : v.keepsUnknown with
      | true =>
        rw [same (.inr keeps)]
        exact fun _ => rfl
      | false =>
        rw [Vocabulary.readUnknown_arguments keeps read]
        exact joint
  | case4 r token inside option name key known takes value tokens split ih
  | case5 r token inside option name key known takes value tokens split ih =>
    simp only [respell, Vocabulary.read, if_neg inside, if_pos option, split, known, if_pos takes]
    rw [reading_other (ne_flag takes)]
    exact ih joint
  | case6 r token inside option name key known takes split =>
    simp only [respell, Vocabulary.read, if_neg inside, if_pos option, split, known, if_pos takes]
    rfl
  | case7 r token tokens inside option name value split key known bare given =>
    have other : ¬(key = a.flag ∧ value = none) := by
      rintro ⟨-, rfl⟩
      contradiction
    simp only [respell, Vocabulary.read, if_neg inside, if_pos option, split, known, if_neg bare,
      if_neg other, if_pos given]
    rfl
  | case8 r token tokens inside option name value split key known bare missing ih =>
    obtain rfl : value = none := Option.not_isSome_iff_eq_none.1 missing
    by_cases flag : key = a.flag
    · subst flag
      simp only [respell, if_neg inside, if_pos option, split, known, if_neg bare, and_self,
        if_true]
      rw [Vocabulary.read_apart a.regular a.known _ _ a.takes, reading_flag]
      exact ih joint
    · simp only [respell, Vocabulary.read, if_neg inside, if_pos option, split, known, if_neg bare,
        flag, false_and, if_false, if_neg missing]
      rw [reading_other flag]
      exact ih joint
  | case9 r token tokens inside argument mixed ih =>
    simp only [respell, Vocabulary.read, if_neg inside, if_neg argument, if_pos mixed]
    obtain rfl := same (.inl mixed)
    exact ih fun _ => rfl
  | case10 r token tokens inside argument ends =>
    obtain ⟨others, kept⟩ := starts token tokens (Bool.eq_false_iff.2 argument)
    simp only [respell, if_neg inside, if_neg argument, if_neg ends]
    rw [kept, Vocabulary.read, if_neg inside, if_neg argument, if_neg ends]
    simp only [Except.map, reading, joint, kept]

/-- What follows the options may also be left as it is. -/
theorem read_respell_id (a : Alias v) (tokens : List String) :
    v.read .empty (a.respell id tokens) = (v.read .empty tokens).map (a.reading id) :=
  read_respell (r := .empty) (fun _ => rfl) (fun _ tokens _ => ⟨tokens, rfl⟩) (fun _ => rfl) tokens

end Alias
end Cli
end EventFilter
