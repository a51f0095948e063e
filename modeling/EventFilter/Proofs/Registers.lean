import EventFilter.Proofs.Compiled

/-! The scanner in registers. A phase, two texts and four lists are all that need be kept while a
filter is read, and they are kept as the scanner keeps what is pending. In each phase it is settled
what may be in the two texts; no digit is lost between them and the lists, and nothing is stored
that is no token. -/
namespace EventFilter

open Outcome

/-- Where the scanner stands: between tokens, in a number, or in the last bound of a span. -/
inductive Phase where
  | start
  | number (side : Side)
  | bound (side : Side)
  deriving DecidableEq, Repr

/-- What may be in the two registers meanwhile. -/
def Phase.Fits : Phase → String → String → Prop
  | start, first, last => first = "" ∧ last = ""
  | number .included, first, last => Text.IsNumeral first ∧ last = ""
  | number .excluded, first, last => Text.Digital first ∧ last = ""
  | bound .included, first, last => Text.IsNumeral first ∧ Text.Digital last
  | bound .excluded, first, last => Text.Digital first ∧ Text.Digital last

namespace Phase.Fits

variable {side : Side} {first last : String} {c : Char}

theorem pushFirst (fits : (number side).Fits first last) (digit : Text.isAsciiDigit c = true) :
    (number side).Fits (first.push c) last := by
  cases side with
  | included => exact ⟨Text.isNumeral_push fits.1.2 digit, fits.2⟩
  | excluded => exact ⟨fits.1.push digit, fits.2⟩

theorem hyphen (fits : (number side).Fits first last) : (bound side).Fits first last := by
  cases side with
  | included => exact ⟨fits.1, fits.2 ▸ .empty⟩
  | excluded => exact ⟨fits.1, fits.2 ▸ .empty⟩

theorem pushLast (fits : (bound side).Fits first last) (digit : Text.isAsciiDigit c = true) :
    (bound side).Fits first (last.push c) := by
  cases side with
  | included => exact ⟨fits.1, fits.2.push digit⟩
  | excluded => exact ⟨fits.1, fits.2.push digit⟩

theorem digital (fits : (bound side).Fits first last) :
    Text.Digital first ∧ Text.Digital last := by
  cases side with
  | included => exact ⟨fits.1.2, fits.2⟩
  | excluded => exact fits

end Phase.Fits

namespace Selection

/-- The token goes to the end of its list. -/
def add (s : Selection) : Token → Selection
  | .id .included digits => { s with includedIds := s.includedIds ++ [digits] }
  | .id .excluded digits => { s with excludedIds := s.excludedIds ++ [digits] }
  | .range .included span => { s with includedSpans := s.includedSpans ++ [span] }
  | .range .excluded span => { s with excludedSpans := s.excludedSpans ++ [span] }

/-- All that is stored, bounds and IDs alike. -/
def characters (s : Selection) : List Char :=
  (s.includedIds ++ s.excludedIds ++
    (s.includedSpans ++ s.excludedSpans).flatMap fun span => [span.first, span.last]).flatMap
      String.toList

theorem ofTokens_concat (tokens : List Token) (token : Token) :
    ofTokens (tokens ++ [token]) = (ofTokens tokens).add token := by
  rcases token with ⟨_ | _, digits⟩ | ⟨_ | _, span⟩ <;> simp [ofTokens, add, id?, span?]

end Selection

structure Registers where
  phase : Phase := .start
  first : String := ""
  last : String := ""
  stored : Selection := {}

namespace Registers

/-- The token that ends here. A number without a sign is not looked at again. -/
def token (r : Registers) : Except Fault (Option Token) :=
  match r.phase with
  | .start => .ok none
  | .number .included => .ok (some (.id .included r.first))
  | .number .excluded =>
    if r.first.isEmpty then .error .missingId else .ok (some (.id .excluded r.first))
  | .bound side =>
    (Span.check side ⟨r.first, r.last⟩).map fun _ => some (.range side ⟨r.first, r.last⟩)

/-- The token is stored, and both registers are cleared. -/
def commit (r : Registers) : Except Fault Registers :=
  r.token.map fun token => { stored := token.elim r.stored r.stored.add }

def feed (r : Registers) (c : Char) : Except Fault Registers :=
  if c = ' ' then .ok r
  else
    match r.phase with
    | .start =>
      if c = '-' then .ok { r with phase := .number .excluded }
      else if Text.isAsciiDigit c then
        .ok { r with phase := .number .included, first := r.first.push c }
      else .error .unexpected
    | .number side =>
      if c = ',' then r.commit
      else if c = '-' then .ok { r with phase := .bound side }
      else if Text.isAsciiDigit c then .ok { r with first := r.first.push c }
      else .error .unexpected
    | .bound side =>
      if c = ',' then r.commit
      else if Text.isAsciiDigit c then .ok { r with last := r.last.push c }
      else .error (.malformedSpan side)

def read (text : String) : Except Fault Selection := do
  return (← (← text.toList.foldlM feed {}).commit).stored

end Registers

/-- What the registers hold of a scan. -/
def Scan.registers (scan : Scan) : Registers :=
  let stored := Selection.ofTokens scan.tokens.toList
  match scan.pending with
  | .start => { stored }
  | .number side digits => { phase := .number side, first := digits, stored }
  | .range side first last => { phase := .bound side, first, last, stored }

namespace Scan

theorem registers_add (pending : Pending) (tokens : Array Token) (out : Option Token) :
    ((⟨pending, tokens⟩ : Scan).add .start out).registers =
      { stored := out.elim (Selection.ofTokens tokens.toList)
          (Selection.ofTokens tokens.toList).add } := by
  cases out with
  | none => rfl
  | some token =>
    simp only [add_some, registers, Array.toList_push, Selection.ofTokens_concat, Option.elim_some]

/-- A token ends in the registers as it does in the scanner: a number without a sign is never
empty, so that there is no need to look. -/
theorem token_registers {scan : Scan} (valid : scan.pending.Valid) :
    scan.registers.token = scan.pending.finish := by
  obtain ⟨pending, tokens⟩ := scan
  cases pending with
  | start => rfl
  | number side digits =>
    cases side with
    | included => exact (Pending.finish_number valid.1).symm
    | excluded => rfl
  | range side first last => rfl

theorem stored_registers (scan : Scan) :
    scan.registers.stored = Selection.ofTokens scan.tokens.toList := by
  obtain ⟨pending, tokens⟩ := scan
  cases pending <;> rfl

theorem commit_registers {scan : Scan} (valid : scan.pending.Valid) :
    scan.registers.commit = scan.pending.finish.map fun out => (scan.add .start out).registers := by
  rw [Registers.commit, token_registers valid, stored_registers]
  exact congrArg scan.pending.finish.map (funext fun out => (registers_add scan.pending _ out).symm)

theorem feed_registers {scan : Scan} (valid : scan.pending.Valid) (c : Char) :
    scan.registers.feed c = (scan.feed c).map registers := by
  have ended := commit_registers valid
  by_cases blank : c = ' '
  · subst blank
    rfl
  obtain ⟨pending, tokens⟩ := scan
  rw [feed, if_neg blank, Registers.feed, if_neg blank]
  cases pending with
  | start =>
    simp only [Pending.step, registers]
    split
    · rfl
    split <;> rfl
  | number side digits =>
    simp only [Pending.step]
    by_cases comma : c = ','
    · rw [if_pos comma]
      simp only [registers, if_pos comma] at ended ⊢
      rw [ended]
      cases (Pending.number side digits).finish <;> rfl
    · simp only [registers, if_neg comma]
      split
      · rfl
      split <;> rfl
  | range side first last =>
    simp only [Pending.step]
    by_cases comma : c = ','
    · rw [if_pos comma]
      simp only [registers, if_pos comma] at ended ⊢
      rw [ended]
      cases (Pending.range side first last).finish <;> rfl
    · simp only [registers, if_neg comma]
      split <;> rfl

theorem run_registers {scan : Scan} {read : List Char} (inv : scan.Invariant read)
    (cs : List Char) :
    cs.foldlM Registers.feed scan.registers = (cs.foldlM feed scan).map registers := by
  induction cs generalizing scan read with
  | nil => rfl
  | cons c cs ih =>
    rw [List.foldlM_cons, List.foldlM_cons, feed_registers inv.pending]
    cases fed : scan.feed c with
    | error fault => rfl
    | ok next => exact ih (inv.feed fed)

end Scan

namespace Registers

variable {r next : Registers}

/-- What the registers hold is what the scanner has read so far. -/
theorem run_eq (cs : List Char) :
    cs.foldlM feed {} = (cs.foldlM Scan.feed .empty).map Scan.registers :=
  Scan.run_registers .empty cs

theorem read_eq (text : String) : read text = Selection.parse text := by
  have run := run_eq text.toList
  rw [read, run, Selection.parse, tokens]
  cases scanned : text.toList.foldlM Scan.feed .empty with
  | error fault => rfl
  | ok scan =>
    have valid := (Scan.Invariant.empty.run scanned).pending
    show (do return (← scan.registers.commit).stored) = scan.close.map Selection.ofTokens
    rw [Scan.commit_registers valid, Scan.close]
    cases scan.pending.finish with
    | error fault => rfl
    | ok out => exact congrArg Except.ok (Scan.stored_registers _)

/-- The texts fit the phase, what is stored is valid, and every digit is in one of the texts or
stored, and only once. -/
structure Sound (r : Registers) (read : List Char) : Prop where
  fits : r.phase.Fits r.first r.last
  stored : r.stored.Valid
  digits : (read.filter Text.isAsciiDigit).Perm
    (r.stored.characters ++ (r.first.toList ++ r.last.toList))

end Registers

namespace Selection

theorem Valid.add {s : Selection} {token : Token} (valid : s.Valid) (tokenValid : token.Valid) :
    (s.add token).Valid := by
  have more {α : Type} {P : α → Prop} {items : List α} {item : α} (all : ∀ item ∈ items, P item)
      (last : P item) : ∀ other ∈ items ++ [item], P other :=
    List.forall_mem_append.2 ⟨all, List.forall_mem_singleton.2 last⟩
  rcases token with ⟨_ | _, digits⟩ | ⟨_ | _, span⟩
  · exact { valid with includedIds := more valid.includedIds tokenValid }
  · exact { valid with excludedIds := more valid.excludedIds tokenValid }
  · exact { valid with includedSpans := more valid.includedSpans tokenValid }
  · exact { valid with excludedSpans := more valid.excludedSpans tokenValid }

end Selection

/-- The digits of a token. -/
def Token.digits : Token → List Char
  | .id _ digits => digits.toList
  | .range _ span => span.first.toList ++ span.last.toList

theorem Selection.characters_add (s : Selection) (token : Token) :
    (s.add token).characters.Perm (s.characters ++ token.digits) := by
  rw [List.perm_iff_count]
  intro c
  rcases token with ⟨_ | _, digits⟩ | ⟨_ | _, span⟩ <;>
    simp only [add, characters, Token.digits, List.flatMap_append, List.flatMap_cons,
      List.flatMap_nil, List.append_nil, List.count_append] <;> omega

namespace Registers

variable {r next : Registers} {read : List Char}

/-- What ends is a valid token of all the digits in the registers. -/
theorem token_eq_ok (fits : r.phase.Fits r.first r.last) {out : Option Token}
    (ended : r.token = .ok out) : (∀ token ∈ out, token.Valid) ∧
      out.elim [] Token.digits = r.first.toList ++ r.last.toList := by
  obtain ⟨phase, first, last, stored⟩ := r
  cases phase with
  | start =>
    cases ended
    obtain ⟨rfl, rfl⟩ := fits
    exact ⟨nofun, rfl⟩
  | number side =>
    cases side with
    | included =>
      cases ended
      obtain ⟨numeral, rfl⟩ := fits
      refine ⟨?_, (List.append_nil _).symm⟩
      rintro _ ⟨⟩
      exact numeral
    | excluded =>
      obtain ⟨digital, rfl⟩ := fits
      simp only [token] at ended
      split at ended
      · contradiction
      · next some_digit =>
        cases ended
        refine ⟨?_, (List.append_nil _).symm⟩
        rintro _ ⟨⟩
        exact ⟨by simpa using some_digit, digital⟩
  | bound side =>
    obtain ⟨⟨⟩, checked, rfl⟩ := map_eq_ok.1 ended
    have digital := fits.digital
    refine ⟨?_, rfl⟩
    rintro _ ⟨⟩
    exact (Span.check_eq_ok side ⟨first, last⟩ digital.1 digital.2).1 checked

theorem Sound.commit (sound : r.Sound read) (ended : r.commit = .ok next) : next.Sound read := by
  obtain ⟨out, made, rfl⟩ := map_eq_ok.1 ended
  obtain ⟨valid, whole⟩ := token_eq_ok sound.fits made
  have kept := sound.digits
  rw [← whole] at kept
  cases out with
  | none => exact ⟨⟨rfl, rfl⟩, sound.stored, kept⟩
  | some token =>
    refine ⟨⟨rfl, rfl⟩, sound.stored.add (valid token rfl), kept.trans ?_⟩
    simpa using (r.stored.characters_add token).symm

variable {c : Char}

/-- A character that is no digit changes the phase at most. -/
theorem Sound.turn (sound : r.Sound read) (other : Text.isAsciiDigit c = false) {phase : Phase}
    (fits : phase.Fits r.first r.last) : ({ r with phase } : Registers).Sound (read ++ [c]) where
  fits := fits
  stored := sound.stored
  digits := by
    have dropped : [c].filter Text.isAsciiDigit = [] := by simp [other]
    rw [List.filter_append, dropped, List.append_nil]
    exact sound.digits

theorem Sound.digits_push (sound : r.Sound read) (digit : Text.isAsciiDigit c = true) :
    ((read ++ [c]).filter Text.isAsciiDigit).Perm
      (r.stored.characters ++ (r.first.toList ++ r.last.toList ++ [c])) := by
  have kept : [c].filter Text.isAsciiDigit = [c] := by simp [digit]
  rw [List.filter_append, kept, ← List.append_assoc]
  exact sound.digits.append_right [c]

theorem Sound.pushFirst (sound : r.Sound read) (digit : Text.isAsciiDigit c = true) {phase : Phase}
    (fits : phase.Fits (r.first.push c) r.last) :
    ({ r with phase, first := r.first.push c } : Registers).Sound (read ++ [c]) where
  fits := fits
  stored := sound.stored
  digits := by
    refine (sound.digits_push digit).trans (.append_left _ ?_)
    rw [String.toList_push, List.append_assoc, List.append_assoc]
    exact List.perm_append_comm.append_left _

theorem Sound.pushLast (sound : r.Sound read) (digit : Text.isAsciiDigit c = true) {phase : Phase}
    (fits : phase.Fits r.first (r.last.push c)) :
    ({ r with phase, last := r.last.push c } : Registers).Sound (read ++ [c]) where
  fits := fits
  stored := sound.stored
  digits := by
    refine (sound.digits_push digit).trans (.append_left _ ?_)
    rw [String.toList_push, List.append_assoc]

theorem Sound.feed (sound : r.Sound read) (fed : r.feed c = .ok next) :
    next.Sound (read ++ [c]) := by
  have commits (comma : c = ',') (ended : r.commit = .ok next) : next.Sound (read ++ [c]) :=
    (sound.commit ended).turn (comma ▸ rfl) (sound.commit ended).fits
  have fits := sound.fits
  unfold Registers.feed at fed
  split at fed
  next blank =>
    cases fed
    exact sound.turn (blank ▸ rfl) fits
  next visible =>
    obtain ⟨phase, first, last, stored⟩ := r
    cases phase with
    | start =>
      obtain ⟨rfl, rfl⟩ := fits
      dsimp only at fed
      split at fed
      next hyphen =>
        cases fed
        exact sound.turn (hyphen ▸ rfl) ⟨.empty, rfl⟩
      next =>
        split at fed
        next digit =>
          cases fed
          exact sound.pushFirst digit ⟨Text.isNumeral_push .empty digit, rfl⟩
        next => contradiction
    | number side =>
      dsimp only at fed
      split at fed
      next comma => exact commits comma fed
      next =>
        split at fed
        next hyphen =>
          cases fed
          exact sound.turn (hyphen ▸ rfl) fits.hyphen
        next =>
          split at fed
          next digit =>
            cases fed
            exact sound.pushFirst digit (fits.pushFirst digit)
          next => contradiction
    | bound side =>
      dsimp only at fed
      split at fed
      next comma => exact commits comma fed
      next =>
        split at fed
        next digit =>
          cases fed
          exact sound.pushLast digit (fits.pushLast digit)
        next => contradiction

theorem Sound.run {cs : List Char} (sound : r.Sound read)
    (run : cs.foldlM Registers.feed r = .ok next) : next.Sound (read ++ cs) := by
  induction cs generalizing r read with
  | nil =>
    cases run
    simpa using sound
  | cons c cs ih =>
    rw [List.foldlM_cons] at run
    obtain ⟨middle, fed, rest⟩ := bind_eq_ok.1 run
    have later := ih (sound.feed fed) rest
    rwa [List.append_assoc] at later

theorem Sound.empty : ({} : Registers).Sound [] :=
  ⟨⟨rfl, rfl⟩, ⟨nofun, nofun, nofun, nofun⟩, .refl _⟩

section

variable {side : Side} {span : Span}

/-- Without a sign in front of it a span has its first bound, even where the last is missing. -/
theorem first_of_missingBound (fits : r.phase.Fits r.first r.last)
    (failed : r.token = .error (.missingBound .included span)) : span.first ≠ "" := by
  obtain ⟨phase, first, last, stored⟩ := r
  cases phase with
  | start => contradiction
  | number side =>
    cases side with
    | included => contradiction
    | excluded => grind [token]
  | bound side =>
    have unchecked := map_eq_error.1 failed
    obtain ⟨rfl, rfl⟩ : side = .included ∧ ⟨first, last⟩ = span := by grind [Span.check_eq]
    exact fits.1.1

/-- A bound is missed only when a token ends. -/
theorem feed_missingBound (failed : r.feed c = .error (.missingBound side span)) :
    r.token = .error (.missingBound side span) := by
  have commits (failed : r.commit = .error (.missingBound side span)) :
      r.token = .error (.missingBound side span) := map_eq_error.1 failed
  grind [Registers.feed]

end

theorem Sound.count (sound : r.Sound read) : read.countP Text.isAsciiDigit =
    r.stored.characters.length + r.first.length + r.last.length := by
  rw [List.countP_eq_length_filter, sound.digits.length_eq, List.length_append, List.length_append,
    String.length_toList, String.length_toList, Nat.add_assoc]

/-- The registers hold what the scanner does, and after any number of characters they fit the phase,
nothing that is no token is stored, and no digit is lost or copied; nor is one at the end. -/
theorem keep_every_digit (text : String) :
    (∀ n, (text.toList.take n).foldlM Registers.feed {} =
        ((text.toList.take n).foldlM Scan.feed .empty).map Scan.registers ∧
      ∀ r, (text.toList.take n).foldlM Registers.feed {} = .ok r →
        r.phase.Fits r.first r.last ∧ r.stored.Valid ∧
        (text.toList.take n).countP Text.isAsciiDigit =
          r.stored.characters.length + r.first.length + r.last.length) ∧
      Registers.read text = Selection.parse text ∧
      (∀ s, Selection.parse text = .ok s → s.Valid ∧
        text.toList.countP Text.isAsciiDigit = s.characters.length) ∧
      ∀ span, Selection.parse text = .error (.missingBound .included span) → span.first ≠ "" := by
  refine ⟨fun n => ⟨run_eq _, fun r run => ?_⟩, read_eq text, fun s parsed => ?_,
    fun span failed => ?_⟩
  · have sound := Sound.empty.run run
    exact ⟨sound.fits, sound.stored, sound.count⟩
  · rw [← read_eq] at parsed
    obtain ⟨r, run, parsed⟩ := bind_eq_ok.1 parsed
    obtain ⟨next, ended, ⟨⟩⟩ := bind_eq_ok.1 parsed
    have sound := (Sound.empty.run run).commit ended
    obtain ⟨out, -, rfl⟩ := map_eq_ok.1 ended
    exact ⟨sound.stored, sound.count⟩
  · rw [← read_eq] at failed
    rcases bind_eq_error.1 failed with failed | ⟨r, run, failed⟩
    · obtain ⟨front, c, rest, r, -, run, failed⟩ := foldlM_error failed
      exact first_of_missingBound (Sound.empty.run run).fits (feed_missingBound failed)
    · rcases bind_eq_error.1 failed with failed | ⟨next, -, ⟨⟩⟩
      exact first_of_missingBound (Sound.empty.run run).fits (map_eq_error.1 failed)

/-- In the middle of the last bound of a span; at the end of a filter; and where that bound is
missing. -/
theorem keep_every_digit_span :
    Phase.Fits (.bound .excluded) "3" "4" ∧
      (("12,-3-45".toList.take 7).countP Text.isAsciiDigit = 4) ∧
      (⟨["12"], [], [], [⟨"3", "45"⟩]⟩ : Selection).Valid ∧ (⟨"7", ""⟩ : Span).first ≠ "" := by
  have run : ("12,-3-45".toList.take 7).foldlM Registers.feed {} =
      .ok ⟨.bound .excluded, "3", "4", ⟨["12"], [], [], []⟩⟩ := rfl
  have parsed : Selection.parse "12,-3-45" = .ok ⟨["12"], [], [], [⟨"3", "45"⟩]⟩ := rfl
  have failed : Selection.parse "7-" = .error (.missingBound .included ⟨"7", ""⟩) := rfl
  obtain ⟨steps, -, ends, -⟩ := keep_every_digit "12,-3-45"
  obtain ⟨fits, -, count⟩ := (steps 7).2 _ run
  exact ⟨fits, count, (ends _ parsed).1, (keep_every_digit "7-").2.2.2 _ failed⟩

end Registers
end EventFilter
