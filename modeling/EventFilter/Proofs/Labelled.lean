import EventFilter.Proofs.Compiled

/-! Labels in front of numbers. A label that is written where a number may start is taken away
again, whatever labels are there already: it is found where it was written, and it neither makes nor
spoils another place where a label leads. So it is of no account what a filter says with it, except
where the filter itself is echoed. -/
namespace EventFilter

open Outcome

namespace Label

variable {label : List Char}

/-- What is left of a text that goes on right after a separator, or after another character. -/
def stripFrom (label : List Char) (after : Bool) (cs : List Char) : List Char :=
  stripAfter label (if after && leads label cs then label.length else 0) cs

theorem stripChars_eq (label cs : List Char) : stripChars label cs = stripFrom label true cs := by
  rw [stripChars, stripFrom, Bool.true_and]

theorem isSeparator_digit {c : Char} (digit : Text.isAsciiDigit c = true) :
    isSeparator c = false := by
  simp only [isSeparator, Bool.or_eq_false_iff, decide_eq_false_iff_not]
  exact ⟨⟨Text.isAsciiDigit_ne digit rfl, Text.isAsciiDigit_ne digit rfl⟩,
    Text.isAsciiDigit_ne digit rfl⟩

theorem leads_iff {cs : List Char} : leads label cs = true ↔
    ∃ d rest, cs = label ++ d :: rest ∧ Text.isAsciiDigit d = true := by
  simp only [leads, Bool.and_eq_true, List.isPrefixOf_iff_prefix]
  constructor
  · rintro ⟨⟨rest, rfl⟩, digit⟩
    rw [List.drop_left] at digit
    cases rest with
    | nil => contradiction
    | cons d rest => exact ⟨d, rest, rfl, digit⟩
  · rintro ⟨d, rest, rfl, digit⟩
    exact ⟨⟨d :: rest, rfl⟩, by rw [List.drop_left]; exact digit⟩

theorem stripAfter_append (label word cs : List Char) :
    stripAfter label word.length (word ++ cs) = stripAfter label 0 cs := by
  induction word with
  | nil => rfl
  | cons c word ih => exact ih

theorem stripFrom_cons {after : Bool} {c : Char} {cs : List Char}
    (stays : ¬(after = true ∧ leads label (c :: cs) = true)) :
    stripFrom label after (c :: cs) = c :: stripFrom label (isSeparator c) cs := by
  rw [stripFrom, if_neg (by rwa [Bool.and_eq_true])]
  rfl

/-- The label goes, and the digit that shows it to be one stays. -/
theorem stripFrom_label {d : Char} (digit : Text.isAsciiDigit d = true) (rest : List Char) :
    stripFrom label true (label ++ d :: rest) = d :: stripFrom label false rest := by
  have led : leads label (label ++ d :: rest) = true := leads_iff.2 ⟨d, rest, rfl, digit⟩
  rw [stripFrom, led, Bool.and_self, if_pos rfl, stripAfter_append, ← isSeparator_digit digit]
  rfl

/-- The second text is the first with the label in front of some digits, each of them the first
character of all or right after a separator. -/
inductive Labelled (label : List Char) : Bool → List Char → List Char → Prop where
  | nil {after : Bool} : Labelled label after [] []
  | keep {after : Bool} {c : Char} {cs ds : List Char} :
      Labelled label (isSeparator c) cs ds → Labelled label after (c :: cs) (c :: ds)
  | put {c : Char} {cs ds : List Char} : Text.isAsciiDigit c = true →
      Labelled label (isSeparator c) cs ds → Labelled label true (c :: cs) (label ++ c :: ds)

namespace Labelled

/-- Within a word nothing is written: if one of the texts goes on with it, so does the other. -/
theorem word {word cs ds : List Char} (inside : ∀ c ∈ word, isSeparator c = false)
    (labelled : Labelled label false cs ds) (leads : word <+: cs ∨ word <+: ds) :
    ∃ cs' ds', cs = word ++ cs' ∧ ds = word ++ ds' ∧ Labelled label false cs' ds' := by
  induction word generalizing cs ds with
  | nil => exact ⟨cs, ds, rfl, rfl, labelled⟩
  | cons c word ih =>
    obtain ⟨first, inside⟩ := List.forall_mem_cons.1 inside
    cases labelled with
    | nil => simp at leads
    | keep later =>
      rw [List.cons_prefix_cons, List.cons_prefix_cons, ← and_or_left] at leads
      obtain ⟨rfl, leads⟩ := leads
      rw [first] at later
      obtain ⟨cs', ds', rfl, rfl, rest⟩ := ih inside later leads
      exact ⟨cs', ds', rfl, rfl, rest⟩

end Labelled

/-- A label of characters that separate nothing, the first of which is no digit. -/
structure IsPlain (label : List Char) : Prop where
  nonempty : label ≠ []
  whole : ∀ c ∈ label, isSeparator c = false
  opening : ∀ c ∈ label.head?, Text.isAsciiDigit c = false

section

variable (plain : IsPlain label)

include plain

theorem not_leads_digit {c : Char} (digit : Text.isAsciiDigit c = true) (cs : List Char) :
    ¬leads label (c :: cs) = true := by
  rw [leads_iff]
  rintro ⟨d, rest, same, -⟩
  cases chars : label with
  | nil => exact plain.nonempty chars
  | cons b word =>
    rw [chars, List.cons_append, List.cons.injEq] at same
    have opening := plain.opening b (by rw [chars]; rfl)
    rw [← same.1, digit] at opening
    contradiction

/-- What a label leads, from its second character on, is one word. -/
theorem leads_cons_iff {c : Char} {cs : List Char} : leads label (c :: cs) = true ↔
    isSeparator c = false ∧ ∃ word d rest, label = c :: word ∧ cs = word ++ [d] ++ rest ∧
      Text.isAsciiDigit d = true ∧ ∀ b ∈ word ++ [d], isSeparator b = false := by
  rw [leads_iff]
  constructor
  · rintro ⟨d, rest, same, digit⟩
    cases chars : label with
    | nil => exact absurd chars plain.nonempty
    | cons b word =>
      have whole := plain.whole
      rw [chars] at same whole
      obtain ⟨rfl, rfl⟩ := List.cons.inj same
      obtain ⟨first, inside⟩ := List.forall_mem_cons.1 whole
      refine ⟨first, word, d, rest, rfl, by simp, digit, ?_⟩
      exact List.forall_mem_append.2 ⟨inside, List.forall_mem_singleton.2 (isSeparator_digit digit)⟩
  · rintro ⟨-, word, d, rest, chars, rfl, digit, -⟩
    exact ⟨d, rest, by simp [chars], digit⟩

/-- Stripping takes away what was written, and what it would have taken away without that. -/
theorem stripFrom_labelled {after : Bool} {cs ds : List Char}
    (labelled : Labelled label after cs ds) : stripFrom label after ds = stripFrom label after cs := by
  induction len : cs.length using Nat.strongRecOn generalizing after cs ds with
  | ind n ih =>
    subst len
    cases labelled with
    | nil => rfl
    | @put c cs ds digit later =>
      have shown := isSeparator_digit digit
      rw [shown] at later
      rw [stripFrom_label digit, stripFrom_cons fun led => not_leads_digit plain digit cs led.2,
        shown, ih cs.length (by simp) later rfl]
    | @keep _ c cs ds later =>
      by_cases led : after = true ∧ leads label (c :: cs) = true
      · obtain ⟨rfl, leads⟩ := led
        obtain ⟨inside, word, d, rest, chars, rfl, digit, whole⟩ := (leads_cons_iff plain).1 leads
        rw [inside] at later
        obtain ⟨rest', es, same, rfl, rests⟩ := later.word whole (.inl ⟨rest, rfl⟩)
        obtain rfl := List.append_cancel_left same
        have split (es : List Char) : c :: (word ++ [d] ++ es) = label ++ d :: es := by
          simp [chars]
        rw [split, split, stripFrom_label digit, stripFrom_label digit,
          ih rest.length (by simp; omega) rests rfl]
      · have stays : ¬(after = true ∧ leads label (c :: ds) = true) := by
          rintro ⟨rfl, leads⟩
          obtain ⟨inside, word, d, rest, chars, rfl, digit, whole⟩ := (leads_cons_iff plain).1 leads
          rw [inside] at later
          obtain ⟨es, -, rfl, -, -⟩ := later.word whole (.inr ⟨rest, rfl⟩)
          exact led ⟨rfl, (leads_cons_iff plain).2 ⟨inside, word, d, es, chars, rfl, digit, whole⟩⟩
        rw [stripFrom_cons led, stripFrom_cons stays, ih cs.length (by simp) later rfl]

end

/-- A digit stands there, at the start of the text or right after a separator. -/
def StartsNumber (text : List Char) (i : Nat) : Prop :=
  (∃ c, text[i]? = some c ∧ Text.isAsciiDigit c = true) ∧
    (i = 0 ∨ ∃ c, text[i - 1]? = some c ∧ isSeparator c = true)

/-- Writes the label in front of what stands at the given places, which are counted from `start`. -/
def writeFrom (label : List Char) (places : List Nat) (start : Nat) (cs : List Char) : List Char :=
  (cs.zipIdx start).flatMap fun (c, i) => if i ∈ places then label ++ [c] else [c]

def write (label : String) (places : List Nat) (text : String) : String :=
  String.ofList (writeFrom label.toList places 0 text.toList)

/-- The front of the text has been passed; a number may start now if it is empty or ends in a
separator. -/
theorem StartsNumber.here {front cs : List Char} {c : Char}
    (starts : StartsNumber (front ++ c :: cs) front.length) :
    Text.isAsciiDigit c = true ∧ front.getLast?.all isSeparator = true := by
  obtain ⟨⟨d, there, digit⟩, place⟩ := starts
  have same : c = d := by simpa using there
  refine ⟨same ▸ digit, ?_⟩
  rcases List.eq_nil_or_concat front with rfl | ⟨before, b, rfl⟩
  · rfl
  · rcases place with empty | ⟨e, there, separates⟩
    · simp at empty
    · have same : b = e := by simpa using there
      rw [List.concat_eq_append, List.getLast?_concat, same]
      exact separates

theorem writeFrom_cons (label : List Char) (places : List Nat) (start : Nat) (c : Char)
    (cs : List Char) : writeFrom label places start (c :: cs) =
      (if start ∈ places then label ++ [c] else [c]) ++ writeFrom label places (start + 1) cs := by
  rw [writeFrom, List.zipIdx_cons, List.flatMap_cons]
  rfl

theorem labelled_writeFrom (label : List Char) {places : List Nat} {text : List Char}
    (starts : ∀ i ∈ places, StartsNumber text i) (front cs : List Char) (whole : text = front ++ cs) :
    Labelled label (front.getLast?.all isSeparator) cs
      (writeFrom label places front.length cs) := by
  induction cs generalizing front with
  | nil => exact .nil
  | cons c cs ih =>
    have later := ih (front ++ [c]) (by simp [whole])
    rw [List.getLast?_concat, List.length_append, List.length_singleton] at later
    rw [writeFrom_cons]
    split
    next chosen =>
      obtain ⟨digit, after⟩ := (whole ▸ starts _ chosen).here
      rw [after, List.append_assoc]
      exact .put digit later
    next => exact .keep later

theorem strip_write {label : String} {places : List Nat} {text : String}
    (plain : IsPlain label.toList) (starts : ∀ i ∈ places, StartsNumber text.toList i) :
    strip (some label) (write label places text) = strip (some label) text := by
  have labelled : Labelled label.toList true text.toList (writeFrom label.toList places 0 text.toList) :=
    labelled_writeFrom label.toList starts [] text.toList rfl
  have same := stripFrom_labelled plain labelled
  rw [← stripChars_eq, ← stripChars_eq] at same
  have nonempty : label.isEmpty = false := by
    rw [← Bool.not_eq_true, String.isEmpty_iff, ← String.toList_eq_nil_iff]
    exact plain.nonempty
  simp only [strip, nonempty, Bool.false_eq_true, if_false, write, String.toList_ofList, same]

end Label

/-- The same message, but for an echo of the one filter or the other, trimmed. -/
def SameButEcho (source source' message message' : String) : Prop :=
  message' = message ∨ ∃ opening closing, message = opening ++ Text.trim source ++ closing ∧
    message' = opening ++ Text.trim source' ++ closing

theorem Fault.message_echo (fault : Fault) (source source' : String) :
    SameButEcho source source' (fault.message source) (fault.message source') := by
  cases fault with
  | unexpected => exact .inr ⟨"Invalid Event ID filter: '", "'", rfl, rfl⟩
  | malformedSpan side =>
    exact .inr ⟨"Invalid " ++ side.adjective ++ " range filter: '", "'", rfl, rfl⟩
  | ambiguous => exact .inr ⟨_, "'", rfl, rfl⟩
  | missingId => exact .inl rfl
  | missingBound side span => exact .inl rfl
  | notAscending side first last => exact .inl rfl
  | oversizedBound digits => exact .inl rfl

namespace Query

/-- What a source is compiled to, or why it is not, does not depend on more than what is left of it
without its labels. -/
theorem ofLevel_of_strip_eq {source source' : String} {label : Option String}
    (same : Label.strip label source' = Label.strip label source) (level : Json) :
    (∃ q q', ofLevel source level label = .ok q ∧ ofLevel source' level label = .ok q' ∧
        q'.selection = q.selection ∧ q'.limit = q.limit) ∨
      (∃ failure, Severity.ofJson level = .error failure ∧
        ofLevel source level label = .error failure ∧
        ofLevel source' level label = .error failure) ∨
      ∃ fault, ofLevel source level label = .error (.filter fault source) ∧
        ofLevel source' level label = .error (.filter fault source') := by
  cases compiled : ofLevel source level label with
  | ok q =>
    obtain ⟨code, compiles⟩ := ofLevel_eq_ok.1 compiled
    obtain ⟨parsed, sound, -, -⟩ := compile_eq_ok.1 compiles
    rw [← same] at parsed
    have compiles' : compile source' q.limit label = .ok ⟨source', q.limit, q.selection⟩ :=
      compile_eq_ok.2 ⟨parsed, sound, rfl, rfl⟩
    exact .inl ⟨q, ⟨source', q.limit, q.selection⟩, rfl, ofLevel_eq_ok.2 ⟨code, compiles'⟩, rfl,
      rfl⟩
  | error failure =>
    right
    rcases ofLevel_eq_error.1 compiled with unknown | ⟨limit, known, failed⟩
    · exact .inl ⟨failure, unknown, rfl, ofLevel_eq_error.2 (.inl unknown)⟩
    · right
      have transfer {fault : Fault}
          (failed' : compile source' limit label = .error (.filter fault source')) :
          ofLevel source' level label = .error (.filter fault source') :=
        ofLevel_eq_error.2 (.inr ⟨limit, known, failed'⟩)
      rcases compile_eq_error.1 failed with ⟨fault, unread, rfl⟩ | ⟨s, parsed, ambiguous, rfl⟩
      · rw [← same] at unread
        exact ⟨fault, rfl, transfer (compile_eq_error.2 (.inl ⟨fault, unread, rfl⟩))⟩
      · rw [← same] at parsed
        exact ⟨.ambiguous, rfl, transfer (compile_eq_error.2 (.inr ⟨s, parsed, ambiguous, rfl⟩))⟩

/-- A label in front of any of the places where a number may start changes neither what is left of a
filter nor what is compiled; a failure stays the same, except that it echoes another filter. -/
theorem ofLevel_write {label text : String} {places : List Nat} (nonempty : label ≠ "")
    (whole : ∀ c ∈ label.toList, Label.isSeparator c = false)
    (opening : ∀ c ∈ label.toList.head?, Text.isAsciiDigit c = false)
    (starts : ∀ i ∈ places, Label.StartsNumber text.toList i) (level : Json) :
    Label.strip (some label) (Label.write label places text) = Label.strip (some label) text ∧
      ((∃ q q', ofLevel text level (some label) = .ok q ∧
          ofLevel (Label.write label places text) level (some label) = .ok q' ∧
          q'.selection = q.selection ∧ q'.predicate = q.predicate ∧ q'.text = q.text) ∨
        (∃ failure, Severity.ofJson level = .error failure ∧
          ofLevel text level (some label) = .error failure ∧
          ofLevel (Label.write label places text) level (some label) = .error failure) ∨
        ∃ fault, ofLevel text level (some label) = .error (.filter fault text) ∧
          ofLevel (Label.write label places text) level (some label) =
            .error (.filter fault (Label.write label places text)) ∧
          SameButEcho text (Label.write label places text) (fault.message text)
            (fault.message (Label.write label places text))) := by
  have plain : Label.IsPlain label.toList := ⟨by simpa using nonempty, whole, opening⟩
  have same := Label.strip_write plain starts
  refine ⟨same, ?_⟩
  rcases ofLevel_of_strip_eq same level with
    ⟨q, q', compiled, compiled', selections, limits⟩ | unknown | ⟨fault, failed, failed'⟩
  · have predicates : q'.predicate = q.predicate := by rw [predicate, selections, limits, predicate]
    exact .inl ⟨q, q', compiled, compiled', selections, predicates, congrArg Predicate.system predicates⟩
  · exact .inr (.inl unknown)
  · exact .inr (.inr ⟨fault, failed, failed', fault.message_echo text _⟩)

/-- One label is there already, and others are written in front of an ID and of both kinds of
bound. -/
theorem ofLevel_write_mixed :
    Label.write "BIP" [0, 8, 11] "1, BIP2-3,-7-9" = "BIP1, BIP2-BIP3,-BIP7-9" ∧
      (∀ i ∈ [0, 8, 11], Label.StartsNumber "1, BIP2-3,-7-9".toList i) ∧
      Label.strip (some "BIP") "BIP1, BIP2-BIP3,-BIP7-9" =
        Label.strip (some "BIP") "1, BIP2-3,-7-9" ∧
      ∃ q q', ofLevel "1, BIP2-3,-7-9" (.int 3) (some "BIP") = .ok q ∧
        ofLevel "BIP1, BIP2-BIP3,-BIP7-9" (.int 3) (some "BIP") = .ok q' ∧
        q'.selection = q.selection ∧ q'.predicate = q.predicate ∧ q'.text = q.text := by
  have written : Label.write "BIP" [0, 8, 11] "1, BIP2-3,-7-9" = "BIP1, BIP2-BIP3,-BIP7-9" := rfl
  have starts : ∀ i ∈ [0, 8, 11], Label.StartsNumber "1, BIP2-3,-7-9".toList i := by
    intro i mem
    simp only [List.mem_cons, List.not_mem_nil, or_false] at mem
    rcases mem with rfl | rfl | rfl
    · exact ⟨⟨'1', rfl, rfl⟩, .inl rfl⟩
    · exact ⟨⟨'3', rfl, rfl⟩, .inr ⟨'-', rfl, rfl⟩⟩
    · exact ⟨⟨'7', rfl, rfl⟩, .inr ⟨'-', rfl, rfl⟩⟩
  have compiled : ofLevel "1, BIP2-3,-7-9" (.int 3) (some "BIP") =
      .ok ⟨"1, BIP2-3,-7-9", some .warning, ⟨["1"], [], [⟨"2", "3"⟩], [⟨"7", "9"⟩]⟩⟩ := rfl
  have whole : ∀ c ∈ "BIP".toList, Label.isSeparator c = false := by
    have chars : "BIP".toList = ['B', 'I', 'P'] := rfl
    simp [chars, Label.isSeparator]
  have opening : ∀ c ∈ "BIP".toList.head?, Text.isAsciiDigit c = false := by
    rintro c ⟨⟩
    rfl
  obtain ⟨same, outcome⟩ := ofLevel_write (by decide) whole opening starts (.int 3)
  rw [written] at same outcome
  refine ⟨written, starts, same, ?_⟩
  rcases outcome with success | ⟨failure, -, failed, -⟩ | ⟨fault, failed, -⟩
  · exact success
  · cases compiled.symm.trans failed
  · cases compiled.symm.trans failed

end Query
end EventFilter
