import EventFilter.Proofs.Grammar
import EventFilter.Proofs.Outcome

/-! The token under way. What has been read of it is its text, a comma ends it and any other
character extends it, and it can end exactly when it spells a valid token. Whatever may be under way
is what is read when its text is. -/
namespace EventFilter

open Outcome

/-- Both bounds must be there; the first is read before the last, and then they are compared. -/
theorem Span.check_eq (side : Side) (span : Span) : span.check side =
    if span.first = "" ∨ span.last = "" then .error (.missingBound side span)
    else if Text.maxDigits < span.first.length then .error (.oversizedBound span.first.length)
    else if Text.maxDigits < span.last.length then .error (.oversizedBound span.last.length)
    else if Text.value span.first < Text.value span.last then .ok ()
    else .error (.notAscending side (Text.value span.first) (Text.value span.last)) := by
  simp only [check, Bool.or_eq_true, String.isEmpty_iff, readBound_eq]
  split
  · rfl
  · by_cases long : Text.maxDigits < span.first.length
    · rw [if_pos long, if_pos long, error_bind]
    · rw [if_neg long, if_neg long, ok_bind]
      by_cases long' : Text.maxDigits < span.last.length
      · rw [if_pos long', if_pos long', error_bind]
      · rw [if_neg long', if_neg long', ok_bind]

/-- Of two texts of digits, exactly the bounds of a valid span pass. -/
theorem Span.check_eq_ok (side : Side) (span : Span) (first : Text.Digital span.first)
    (last : Text.Digital span.last) : span.check side = .ok () ↔ span.Valid := by
  rw [check_eq]
  constructor
  · intro passed
    split at passed
    next => contradiction
    next present =>
      split at passed
      next => contradiction
      next short =>
        split at passed
        next => contradiction
        next short' =>
          split at passed
          next ascending =>
            obtain ⟨nonempty, nonempty'⟩ := not_or.1 present
            exact ⟨⟨nonempty, first⟩, ⟨nonempty', last⟩, Nat.not_lt.1 short, Nat.not_lt.1 short',
              ascending⟩
          next => contradiction
  · intro valid
    have present := not_or.2 ⟨valid.first.1, valid.last.1⟩
    rw [if_neg present, if_neg (Nat.not_lt.2 valid.firstShort),
      if_neg (Nat.not_lt.2 valid.lastShort), if_pos valid.ascending]

namespace Pending

def text : Pending → String
  | start => ""
  | number side digits => side.sign ++ digits
  | range side first last => side.sign ++ first ++ "-" ++ last

/-- Without a sign in front, a token begins with a digit. -/
def Valid : Pending → Prop
  | start => True
  | number .included digits => Text.IsNumeral digits
  | number .excluded digits => Text.Digital digits
  | range .included first last => Text.IsNumeral first ∧ Text.Digital last
  | range .excluded first last => Text.Digital first ∧ Text.Digital last

def ofToken : Token → Pending
  | .id side digits => number side digits
  | .range side span => range side span.first span.last

@[simp] theorem text_ofToken (token : Token) : (ofToken token).text = token.text := by
  cases token <;> rfl

theorem Valid.number {side : Side} {digits : String} (valid : (number side digits).Valid) :
    Text.Digital digits := by
  cases side with
  | included => exact valid.2
  | excluded => exact valid

theorem valid_range {side : Side} {first last : String} :
    (range side first last).Valid ↔ (number side first).Valid ∧ Text.Digital last := by
  cases side <;> rfl

theorem Valid.range {side : Side} {first last : String} (valid : (range side first last).Valid) :
    Text.Digital first ∧ Text.Digital last := by
  cases side with
  | included => exact ⟨valid.1.2, valid.2⟩
  | excluded => exact valid

theorem finish_number {side : Side} {digits : String} (nonempty : digits ≠ "") :
    (number side digits).finish = .ok (some (.id side digits)) := by
  simp [finish, nonempty]

theorem finish_number_empty (side : Side) : (number side "").finish = .error .missingId := rfl

theorem finish_eq_none {p : Pending} : p.finish = .ok none ↔ p = .start := by
  cases p with
  | start => simp [finish]
  | number side digits =>
    by_cases empty : digits = ""
    · simp [empty, finish_number_empty]
    · simp [finish_number empty]
  | range side first last => simp [finish, map_eq_ok]

/-- What ends is a valid token, and every valid token can end. -/
theorem finish_eq_some {p : Pending} (valid : p.Valid) {token : Token} :
    p.finish = .ok (some token) ↔ p = ofToken token ∧ token.Valid := by
  cases p with
  | start => cases token <;> simp [finish, ofToken]
  | number side digits =>
    have digital := valid.number
    by_cases empty : digits = ""
    · subst empty
      rw [finish_number_empty]
      constructor
      · rintro ⟨⟩
      · rintro ⟨same, numeral⟩
        cases token <;> cases same
        exact absurd rfl numeral.1
    · rw [finish_number empty]
      constructor
      · rintro ⟨⟩
        exact ⟨rfl, empty, digital⟩
      · rintro ⟨same, -⟩
        cases token <;> cases same
        rfl
  | range side first last =>
    obtain ⟨firstDigital, lastDigital⟩ := valid.range
    have checked := Span.check_eq_ok side ⟨first, last⟩ firstDigital lastDigital
    simp only [finish, map_eq_ok]
    constructor
    · rintro ⟨⟨⟩, passed, ⟨⟩⟩
      exact ⟨rfl, checked.1 passed⟩
    · rintro ⟨same, spanValid⟩
      cases token <;> cases same
      exact ⟨(), checked.2 spanValid, rfl⟩

theorem text_number_push (side : Side) (digits : String) (c : Char) :
    (number side (digits.push c)).text = (number side digits).text.push c := by
  simp [text, ← String.append_singleton, String.append_assoc]

theorem text_range_push (side : Side) (first last : String) (c : Char) :
    (range side first (last.push c)).text = (range side first last).text.push c := by
  simp [text, ← String.append_singleton, String.append_assoc]

theorem Valid.number_push {side : Side} {digits : String} {c : Char}
    (valid : (Pending.number side digits).Valid) (digit : Text.isAsciiDigit c = true) :
    (Pending.number side (digits.push c)).Valid := by
  cases side with
  | included => exact Text.isNumeral_push valid.2 digit
  | excluded => exact valid.push digit

theorem Valid.range_start {side : Side} {digits : String}
    (valid : (Pending.number side digits).Valid) : (Pending.range side digits "").Valid := by
  cases side with
  | included => exact ⟨valid, .empty⟩
  | excluded => exact ⟨valid, .empty⟩

theorem Valid.range_push {side : Side} {first last : String} {c : Char}
    (valid : (Pending.range side first last).Valid) (digit : Text.isAsciiDigit c = true) :
    (Pending.range side first (last.push c)).Valid := by
  cases side with
  | included => exact ⟨valid.1, valid.2.push digit⟩
  | excluded => exact ⟨valid.1, valid.2.push digit⟩

/-- A comma ends the token under way; any other character becomes part of it. -/
theorem step_cases {p next : Pending} {c : Char} {out : Option Token}
    (h : p.step c = .ok (next, out)) :
    (c ≠ ',' ∧ out = none ∧ next.text = p.text.push c ∧ (p.Valid → next.Valid)) ∨
      (c = ',' ∧ p ≠ .start ∧ next = .start ∧ p.finish = .ok out) := by
  cases p with
  | start =>
    left
    simp only [step] at h
    split at h
    next hyphen =>
      cases h
      exact ⟨hyphen ▸ by decide, rfl, hyphen ▸ rfl, fun _ => .empty⟩
    next =>
      split at h
      next digit =>
        cases h
        refine ⟨Text.isAsciiDigit_ne digit rfl, rfl, ?_, fun _ => Text.isNumeral_singleton digit⟩
        simp [text, Side.sign, ← String.append_singleton]
      next => contradiction
  | number side digits =>
    simp only [step] at h
    split at h
    next comma =>
      obtain ⟨token, finished, ⟨⟩⟩ := map_eq_ok.1 h
      exact .inr ⟨comma, by simp, rfl, finished⟩
    next other =>
      left
      split at h
      next hyphen =>
        cases h
        refine ⟨other, rfl, ?_, Valid.range_start⟩
        simp [text, hyphen, ← String.append_singleton]
      next =>
        split at h
        next digit =>
          cases h
          exact ⟨other, rfl, text_number_push .., fun valid => valid.number_push digit⟩
        next => contradiction
  | range side first last =>
    simp only [step] at h
    split at h
    next comma =>
      obtain ⟨token, finished, ⟨⟩⟩ := map_eq_ok.1 h
      exact .inr ⟨comma, by simp, rfl, finished⟩
    next other =>
      left
      split at h
      next digit =>
        cases h
        exact ⟨other, rfl, text_range_push .., fun valid => valid.range_push digit⟩
      next => contradiction

theorem step_start_digit {c : Char} (digit : Text.isAsciiDigit c = true) :
    start.step c = .ok (number .included (String.singleton c), none) := by
  simp [step, Text.isAsciiDigit_ne digit (d := '-') rfl, digit]

theorem step_number (side : Side) (digits : String) {c : Char}
    (digit : Text.isAsciiDigit c = true) :
    (number side digits).step c = .ok (number side (digits.push c), none) := by
  simp [step, Text.isAsciiDigit_ne digit (d := ',') rfl, Text.isAsciiDigit_ne digit (d := '-') rfl,
    digit]

theorem step_range (side : Side) (first last : String) {c : Char}
    (digit : Text.isAsciiDigit c = true) :
    (range side first last).step c = .ok (range side first (last.push c), none) := by
  simp [step, Text.isAsciiDigit_ne digit (d := ',') rfl, digit]

theorem step_hyphen (side : Side) (digits : String) :
    (number side digits).step '-' = .ok (.range side digits "", none) := rfl

/-- Reads one more character of the token; a comma is none. -/
def extend (p : Pending) (c : Char) : Except Fault Pending :=
  if c = ',' then .error .unexpected else (p.step c).map Prod.fst

theorem extend_eq_ok {p next : Pending} {c : Char} :
    p.extend c = .ok next ↔ p.step c = .ok (next, none) := by
  constructor
  · intro h
    unfold extend at h
    split at h
    · contradiction
    · obtain ⟨⟨next', out⟩, stepped, ⟨⟩⟩ := map_eq_ok.1 h
      rcases step_cases stepped with ⟨-, rfl, -⟩ | ⟨comma, -⟩
      · exact stepped
      · contradiction
  · intro stepped
    rcases step_cases stepped with ⟨other, -⟩ | ⟨-, busy, -, finished⟩
    · rw [extend, if_neg other, stepped]
      rfl
    · exact absurd (finish_eq_none.1 finished) busy

theorem extend_plain {p next : Pending} {c : Char} (h : p.extend c = .ok next) :
    c ≠ ' ' ∧ c ≠ ',' := by
  constructor
  · rintro rfl
    cases p <;> contradiction
  · rintro rfl
    contradiction

theorem run_plain {p next : Pending} {cs : List Char} (h : cs.foldlM extend p = .ok next) :
    ∀ c ∈ cs, c ≠ ' ' ∧ c ≠ ',' := by
  induction cs generalizing p with
  | nil => simp
  | cons c cs ih =>
    rw [List.foldlM_cons] at h
    obtain ⟨middle, extended, rest⟩ := bind_eq_ok.1 h
    exact List.forall_mem_cons.2 ⟨extend_plain extended, ih rest⟩

/-- What is read is added to the text of the token, and keeps it one that may be under way. -/
theorem Valid.run {p next : Pending} {cs : List Char} (valid : p.Valid)
    (h : cs.foldlM extend p = .ok next) :
    next.Valid ∧ next.text.toList = p.text.toList ++ cs := by
  induction cs generalizing p with
  | nil =>
    cases h
    exact ⟨valid, by simp⟩
  | cons c cs ih =>
    rw [List.foldlM_cons] at h
    obtain ⟨middle, extended, rest⟩ := bind_eq_ok.1 h
    rcases step_cases (extend_eq_ok.1 extended) with ⟨-, -, text, keeps⟩ | ⟨rfl, -⟩
    · obtain ⟨nextValid, nextText⟩ := ih (keeps valid) rest
      refine ⟨nextValid, ?_⟩
      rw [nextText, text, String.toList_push, List.append_assoc, List.singleton_append]
    · contradiction

/-- Digits collect at the end of a number or of the last bound, which `part` stands for. -/
theorem run_digits (part : String → Pending)
    (grows : ∀ digits c, Text.isAsciiDigit c = true →
      (part digits).step c = .ok (part (digits.push c), none))
    (cs : List Char) (all : ∀ c ∈ cs, Text.isAsciiDigit c = true) (digits : String) :
    cs.foldlM extend (part digits) = .ok (part (digits ++ String.ofList cs)) := by
  induction cs generalizing digits with
  | nil => simp [pure, Except.pure]
  | cons c cs ih =>
    obtain ⟨digit, all⟩ := List.forall_mem_cons.1 all
    have extended := extend_eq_ok.2 (grows digits c digit)
    have joined : digits ++ String.ofList (c :: cs) = digits.push c ++ String.ofList cs := by
      simp [← String.toList_inj]
    rw [List.foldlM_cons, extended, ok_bind, joined]
    exact ih all _

/-- A sign and digits are read as a number, whichever the sign. -/
theorem run_number {side : Side} {digits : String} (valid : (number side digits).Valid) :
    (side.sign ++ digits).toList.foldlM extend start = .ok (number side digits) := by
  have grows := run_digits (number side) fun digits c digit => step_number side digits digit
  cases side with
  | included =>
    obtain ⟨nonempty, all⟩ := valid
    cases chars : digits.toList with
    | nil => exact absurd (String.toList_eq_nil_iff.1 chars) nonempty
    | cons c cs =>
      have extended := extend_eq_ok.2 (step_start_digit (all c (by simp [chars])))
      have joined : String.singleton c ++ String.ofList cs = digits := by
        simp [← String.toList_inj, chars]
      have signed : (Side.included.sign ++ digits).toList = c :: cs := by simp [Side.sign, chars]
      rw [signed, List.foldlM_cons, extended, ok_bind, ← joined]
      exact grows cs (fun d mem => all d (by simp [chars, mem])) _
  | excluded =>
    have signed : (Side.excluded.sign ++ digits).toList = '-' :: digits.toList := by
      simp [Side.sign]
    have collected := grows digits.toList valid ""
    rw [String.ofList_toList, String.empty_append] at collected
    rw [signed, List.foldlM_cons]
    exact collected

theorem run_range {side : Side} {first last : String} (valid : (number side first).Valid)
    (digital : Text.Digital last) :
    (side.sign ++ first ++ "-" ++ last).toList.foldlM extend start =
      .ok (range side first last) := by
  have collected := run_digits (range side first) (fun digits c digit =>
    step_range side first digits digit) last.toList digital ""
  rw [String.ofList_toList, String.empty_append] at collected
  have split : (side.sign ++ first ++ "-" ++ last).toList =
      (side.sign ++ first).toList ++ '-' :: last.toList := by simp
  rw [split, List.foldlM_append, run_number valid, ok_bind, List.foldlM_cons,
    extend_eq_ok.2 (step_hyphen side first)]
  exact collected

theorem run_text {p : Pending} (valid : p.Valid) : p.text.toList.foldlM extend start = .ok p := by
  cases p with
  | start => rfl
  | number side digits => exact run_number valid
  | range side first last =>
    obtain ⟨firstValid, digital⟩ := valid_range.1 valid
    exact run_range firstValid digital

/-- A text is read to its end exactly when it is that of a token that may be under way. -/
theorem run_eq_ok {p : Pending} {cs : List Char} :
    cs.foldlM extend start = .ok p ↔ p.Valid ∧ p.text.toList = cs := by
  constructor
  · intro run
    exact Valid.run (p := start) trivial run
  · rintro ⟨valid, rfl⟩
    exact run_text valid

theorem valid_ofToken {token : Token} (valid : token.Valid) : (ofToken token).Valid := by
  cases token with
  | id side digits =>
    cases side with
    | included => exact valid
    | excluded => exact valid.2
  | range side span =>
    cases side with
    | included => exact ⟨valid.first, valid.last.2⟩
    | excluded => exact ⟨valid.first.2, valid.last.2⟩

theorem step_comma {p : Pending} {token : Token} (finished : p.finish = .ok (some token)) :
    p.step ',' = .ok (.start, some token) := by
  cases p with
  | start => cases finished
  | number side digits => simp [step, finished, Except.map]
  | range side first last => simp [step, finished, Except.map]

end Pending
end EventFilter
