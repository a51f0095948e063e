import EventFilter.Proofs.Labelled

/-! Where a label occurs in front of a number. Occurrences keep apart from one another, since what
separates them is no part of a label, and stripping takes away just the characters that they cover.
The text that was there is what is left with labels written into it, so to strip once more finds
nothing. -/
namespace EventFilter.Label

variable {label text : List Char}

/-- The label stands there, at the start of the text or right after a separator, and a digit comes
next. -/
def OccursAt (label text : List Char) (i : Nat) : Prop :=
  (i = 0 ∨ text[i - 1]?.any isSeparator = true) ∧ label <+: text.drop i ∧
    text[i + label.length]?.any Text.isAsciiDigit = true

instance (label text : List Char) (i : Nat) : Decidable (OccursAt label text i) :=
  inferInstanceAs (Decidable (_ ∧ _))

def Covers (label text : List Char) (k : Nat) : Prop :=
  ∃ i, i ≤ k ∧ OccursAt label text i ∧ k < i + label.length

instance (label text : List Char) (k : Nat) : Decidable (Covers label text k) :=
  inferInstanceAs (Decidable (∃ i, i ≤ k ∧ _))

/-- The characters from `start` on that no occurrence in the text covers. -/
def uncovered (label text : List Char) (start : Nat) (cs : List Char) : List Char :=
  ((cs.zipIdx start).filter fun entry => ¬Covers label text entry.2).map (·.1)

/-- The text without the occurrences of the label. -/
def erase (label text : List Char) : List Char := uncovered label text 0 text

theorem occursAt_append {front cs : List Char} : OccursAt label (front ++ cs) front.length ↔
    front.getLast?.all isSeparator = true ∧ leads label cs = true := by
  have place : (front.length = 0 ∨ (front ++ cs)[front.length - 1]?.any isSeparator = true) ↔
      front.getLast?.all isSeparator = true := by
    rcases List.eq_nil_or_concat front with rfl | ⟨before, c, rfl⟩
    · simp
    · simp
  have digit : (front ++ cs)[front.length + label.length]?.any Text.isAsciiDigit = true ↔
      (cs.drop label.length).head?.any Text.isAsciiDigit = true := by
    simp [List.getElem?_append_right]
  rw [OccursAt, place, digit, List.drop_left, leads, Bool.and_eq_true, List.isPrefixOf_iff_prefix]

/-- Nothing that occurs in front of this place reaches beyond it. -/
def Clear (label text : List Char) (start : Nat) : Prop :=
  ∀ i < start, OccursAt label text i → i + label.length ≤ start

theorem Clear.succ {start : Nat} (clear : Clear label text start)
    (absent : ¬OccursAt label text start) : Clear label text (start + 1) := by
  intro i before occurs
  rcases Nat.lt_or_eq_of_le (Nat.le_of_lt_succ before) with before | rfl
  · exact Nat.le_succ_of_le (clear i before occurs)
  · exact absurd occurs absent

theorem uncovered_cons {start : Nat} {c : Char} {cs : List Char} (clear : Clear label text start)
    (absent : ¬OccursAt label text start) :
    uncovered label text start (c :: cs) = c :: uncovered label text (start + 1) cs := by
  have bare : ¬Covers label text start := by
    rintro ⟨i, le, occurs, reaches⟩
    rcases Nat.lt_or_eq_of_le le with before | rfl
    · exact absurd (clear i before occurs) (by omega)
    · exact absent occurs
  simp [uncovered, List.zipIdx_cons, bare]

theorem uncovered_label {start : Nat} (occurs : OccursAt label text start) (cs : List Char) :
    uncovered label text start (label ++ cs) = uncovered label text (start + label.length) cs := by
  have covered : (label.zipIdx start).filter (fun entry => ¬Covers label text entry.2) = [] := by
    rw [List.filter_eq_nil_iff]
    intro entry mem
    have place := List.mem_zipIdx mem
    have covers : Covers label text entry.2 := ⟨start, by omega, occurs, by omega⟩
    simpa using covers
  rw [uncovered, List.zipIdx_append, List.filter_append, covered, List.nil_append, uncovered]

section

variable (whole : ∀ c ∈ label, isSeparator c = false)

include whole

/-- In front of an occurrence stands a separator, and within one there is none. -/
theorem OccursAt.apart {i j : Nat} (first : OccursAt label text i) (second : OccursAt label text j)
    (before : i < j) : i + label.length ≤ j := by
  rw [← Nat.not_lt]
  intro overlap
  obtain ⟨rest, spelled⟩ := first.2.1
  have inside : j - 1 - i < label.length := by omega
  have there : (text.drop i)[j - 1 - i]? = some label[j - 1 - i] := by
    rw [← spelled, List.getElem?_append_left inside, List.getElem?_eq_getElem inside]
  rw [List.getElem?_drop, show i + (j - 1 - i) = j - 1 by omega] at there
  rcases second.1 with start | separator
  · omega
  · rw [there, Option.any_some, whole _ (List.getElem_mem inside)] at separator
    contradiction

theorem OccursAt.clear {start : Nat} (occurs : OccursAt label text start)
    (clear : Clear label text start) : Clear label text (start + label.length) := by
  intro i before other
  rcases Nat.lt_trichotomy i start with front | rfl | behind
  · exact Nat.le_add_right_of_le (clear i front other)
  · exact Nat.le_refl _
  · exact absurd (occurs.apart whole other behind) (Nat.not_le_of_lt before)

variable (nonempty : label ≠ [])

include nonempty

/-- What ends in a label ends in no separator. -/
theorem last_label (front : List Char) : (front ++ label).getLast?.all isSeparator = false := by
  rw [List.getLast?_append, List.getLast?_eq_some_getLast nonempty, Option.some_or, Option.all_some]
  exact whole _ (List.getLast_mem nonempty)

/-- The scan goes on behind what it has found, and nothing that it leaves behind is covered. -/
theorem stripFrom_eq_uncovered {front cs : List Char} (split : text = front ++ cs)
    (clear : Clear label text front.length) :
    stripFrom label (front.getLast?.all isSeparator) cs =
      uncovered label text front.length cs := by
  induction len : cs.length using Nat.strongRecOn generalizing front cs with
  | ind n ih =>
    subst len
    -- Where the label does not occur a character is kept, and the scan goes on behind it.
    have kept {before rest : List Char} {c : Char} (split : text = before ++ c :: rest)
        (shorter : rest.length < cs.length) (clear : Clear label text before.length)
        (absent : ¬OccursAt label text before.length) :
        c :: stripFrom label (isSeparator c) rest =
          uncovered label text before.length (c :: rest) := by
      have length : (before ++ [c]).length = before.length + 1 := List.length_append
      have further : text = (before ++ [c]) ++ rest := by simp [split]
      have later := ih rest.length shorter further (length ▸ clear.succ absent) rfl
      rw [List.getLast?_concat, Option.all_some, length] at later
      rw [uncovered_cons clear absent, later]
    cases cs with
    | nil => simp [stripFrom, stripAfter, uncovered]
    | cons c cs =>
      by_cases occurs : OccursAt label text front.length
      · obtain ⟨after, led⟩ := occursAt_append.1 (split ▸ occurs)
        obtain ⟨d, rest, chars, digit⟩ := leads_iff.1 led
        have split' : text = (front ++ label) ++ d :: rest := by simp [split, chars]
        have absent : ¬OccursAt label text (front ++ label).length := by
          intro again
          have after := (occursAt_append.1 (split' ▸ again)).1
          rw [last_label whole nonempty] at after
          contradiction
        have clear' := occurs.clear whole clear
        rw [← List.length_append] at clear'
        rw [after, chars, stripFrom_label digit, uncovered_label occurs, ← List.length_append,
          ← kept split' (by simp [chars]; omega) clear' absent, isSeparator_digit digit]
      · have stays : ¬(front.getLast?.all isSeparator = true ∧ leads label (c :: cs) = true) := by
          rwa [← occursAt_append, ← split]
        rw [stripFrom_cons stays, kept split (by simp) clear occurs]

end

/-- What was stripped from the text can be written into what is left of it. -/
theorem labelled_stripFrom (label : List Char) (after : Bool) (cs : List Char) :
    Labelled label after (stripFrom label after cs) cs := by
  induction len : cs.length using Nat.strongRecOn generalizing after cs with
  | ind n ih =>
    subst len
    cases cs with
    | nil => exact .nil
    | cons c cs =>
      by_cases led : after = true ∧ leads label (c :: cs) = true
      · obtain ⟨rfl, leads⟩ := led
        obtain ⟨d, rest, chars, digit⟩ := leads_iff.1 leads
        have shorter : rest.length < (c :: cs).length := by simp [chars]; omega
        rw [chars, stripFrom_label digit, ← isSeparator_digit digit]
        exact .put digit (ih rest.length shorter _ rest rfl)
      · rw [stripFrom_cons led]
        exact .keep (ih cs.length (by simp) _ cs rfl)

theorem stripFrom_stripFrom (plain : IsPlain label) (after : Bool) (cs : List Char) :
    stripFrom label after (stripFrom label after cs) = stripFrom label after cs :=
  (stripFrom_labelled plain (labelled_stripFrom label after cs)).symm

/-- A text that loses nothing holds no occurrence. -/
theorem not_occursAt (nonempty : label ≠ []) (same : erase label text = text) (i : Nat) :
    ¬OccursAt label text i := by
  intro occurs
  have positive := List.length_pos_iff.2 nonempty
  have inside : i < text.length := by
    have fits := occurs.2.1.length_le
    rw [List.length_drop] at fits
    omega
  have lengths := congrArg List.length same
  rw [erase, uncovered, List.length_map] at lengths
  have kept := List.length_filter_eq_length_iff.1 (lengths.trans (List.length_zipIdx ..).symm)
    (text[i], i) (List.mk_mem_zipIdx_iff_getElem?.2 (List.getElem?_eq_getElem inside))
  exact of_decide_eq_true kept ⟨i, Nat.le_refl i, occurs, by omega⟩

section

variable {label : String} (nonempty : label ≠ "")

include nonempty

theorem strip_eq_stripFrom (text : String) :
    strip (some label) text = String.ofList (stripFrom label.toList true text.toList) := by
  have given : label.isEmpty = false := by simpa using nonempty
  rw [strip, given, stripChars_eq]
  rfl

variable (whole : ∀ c ∈ label.toList, isSeparator c = false)

include whole

/-- Occurrences of a label that is one word keep apart, and stripping takes away all of them and
nothing else. If the word does not open with a digit, none is left, not even a new one. -/
theorem strip_eq_erase (text : String) :
    (∀ i j, OccursAt label.toList text.toList i → OccursAt label.toList text.toList j → i < j →
        i + label.length ≤ j) ∧
      strip (some label) text = String.ofList (erase label.toList text.toList) ∧
      ((∀ c ∈ label.toList.head?, Text.isAsciiDigit c = false) →
        (∀ i, ¬OccursAt label.toList (strip (some label) text).toList i) ∧
        strip (some label) (strip (some label) text) = strip (some label) text) := by
  have chars : label.toList ≠ [] := by simpa using nonempty
  have erased (text : String) :
      strip (some label) text = String.ofList (erase label.toList text.toList) := by
    rw [strip_eq_stripFrom nonempty]
    have whole := stripFrom_eq_uncovered whole chars (List.nil_append text.toList).symm nofun
    exact congrArg String.ofList whole
  refine ⟨fun i j first second before => first.apart whole second before, erased text, ?_⟩
  intro opening
  have again : strip (some label) (strip (some label) text) = strip (some label) text := by
    rw [strip_eq_stripFrom nonempty text, strip_eq_stripFrom nonempty, String.toList_ofList,
      stripFrom_stripFrom ⟨chars, whole, opening⟩]
  have same : erase label.toList (strip (some label) text).toList =
      (strip (some label) text).toList := by
    have left := congrArg String.toList (erased (strip (some label) text))
    rwa [String.toList_ofList, again, eq_comm] at left
  exact ⟨not_occursAt chars same, again⟩

end

/-- A label at the start and one behind a hyphen; the one within a word stays. -/
theorem strip_eq_erase_dotted :
    erase "B.".toList "B.1,-B.2 xB.3".toList = "1,-2 xB.3".toList ∧
      strip (some "B.") "B.1,-B.2 xB.3" = "1,-2 xB.3" ∧
      (∀ i, ¬OccursAt "B.".toList "1,-2 xB.3".toList i) ∧
      strip (some "B.") "1,-2 xB.3" = "1,-2 xB.3" := by
  have whole : ∀ c ∈ "B.".toList, isSeparator c = false := by simp [isSeparator]
  have opening : ∀ c ∈ "B.".toList.head?, Text.isAsciiDigit c = false := by
    rintro c ⟨⟩
    rfl
  have rest : erase "B.".toList "B.1,-B.2 xB.3".toList = "1,-2 xB.3".toList := by rfl
  obtain ⟨-, erased, left⟩ := strip_eq_erase (by decide) whole "B.1,-B.2 xB.3"
  obtain ⟨absent, again⟩ := left opening
  rw [rest, String.ofList_toList] at erased
  rw [erased] at absent again
  exact ⟨rest, erased, absent, again⟩

end EventFilter.Label
