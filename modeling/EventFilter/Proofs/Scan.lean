import EventFilter.Proofs.Pending

/-! What the scanner knows. The tokens read so far and the token under way spell the text behind
it, blanks apart; this holds from the first character to the last, so a text that is read to its
end is spelled by its tokens. Conversely a spelled text leads the scanner through its tokens. -/
namespace EventFilter

open Grammar Outcome

namespace Scan

@[simp] theorem add_none (scan : Scan) (pending : Pending) :
    scan.add pending none = ⟨pending, scan.tokens⟩ := rfl

@[simp] theorem add_some (scan : Scan) (pending : Pending) (token : Token) :
    scan.add pending (some token) = ⟨pending, scan.tokens.push token⟩ := rfl

theorem feed_eq_ok {scan next : Scan} {c : Char} (visible : c ≠ ' ') :
    scan.feed c = .ok next ↔
      ∃ pending out, scan.pending.step c = .ok (pending, out) ∧ scan.add pending out = next := by
  rw [feed, if_neg visible, map_eq_ok]
  exact Prod.exists

structure Invariant (scan : Scan) (read : List Char) : Prop where
  spelled : read = scan.tokens.toList.flatMap Token.closed ++ scan.pending.text.toList
  pending : scan.pending.Valid
  tokens : ∀ token ∈ scan.tokens.toList, token.Valid

theorem valid_push {tokens : Array Token} {token : Token}
    (all : ∀ other ∈ tokens.toList, other.Valid) (valid : token.Valid) :
    ∀ other ∈ (tokens.push token).toList, other.Valid := by
  rw [Array.toList_push, List.forall_mem_append]
  exact ⟨all, List.forall_mem_singleton.2 valid⟩

theorem Invariant.empty : empty.Invariant [] := ⟨rfl, trivial, by simp [Scan.empty]⟩

theorem Invariant.feed {scan next : Scan} {read : List Char} {c : Char}
    (inv : scan.Invariant read) (h : scan.feed c = .ok next) :
    next.Invariant (read ++ [c].filter (· ≠ ' ')) := by
  by_cases blank : c = ' '
  · subst blank
    rw [feed_space] at h
    cases h
    simpa using inv
  · have kept : [c].filter (· ≠ ' ') = [c] := by simp [blank]
    rw [kept]
    obtain ⟨pending, out, stepped, rfl⟩ := (feed_eq_ok blank).1 h
    rcases Pending.step_cases stepped with ⟨-, rfl, text, valid⟩ | ⟨rfl, busy, rfl, finished⟩
    · refine ⟨?_, valid inv.pending, inv.tokens⟩
      rw [inv.spelled, add_none, text, String.toList_push, List.append_assoc]
    · cases out with
      | none => exact absurd (Pending.finish_eq_none.1 finished) busy
      | some token =>
        obtain ⟨same, tokenValid⟩ := (Pending.finish_eq_some inv.pending).1 finished
        refine ⟨?_, trivial, valid_push inv.tokens tokenValid⟩
        rw [inv.spelled, same, Pending.text_ofToken]
        simp [Token.closed, Pending.text]

theorem Invariant.run {scan next : Scan} {read cs : List Char} (inv : scan.Invariant read)
    (h : cs.foldlM Scan.feed scan = .ok next) :
    next.Invariant (read ++ cs.filter (· ≠ ' ')) := by
  induction cs generalizing scan read with
  | nil =>
    cases h
    simpa using inv
  | cons c cs ih =>
    rw [List.foldlM_cons] at h
    obtain ⟨middle, fed, rest⟩ := bind_eq_ok.1 h
    have later := ih (inv.feed fed) rest
    rwa [List.append_assoc, ← List.filter_append, List.singleton_append] at later

theorem Invariant.close {scan : Scan} {read : List Char} {tokens : List Token}
    (inv : scan.Invariant read) (h : scan.close = .ok tokens) :
    Spells tokens read ∧ ∀ token ∈ tokens, token.Valid := by
  obtain ⟨out, finished, rfl⟩ := map_eq_ok.1 h
  cases out with
  | none =>
    have start := Pending.finish_eq_none.1 finished
    refine ⟨spells_iff.2 (.inl ?_), inv.tokens⟩
    rw [inv.spelled, start]
    simp [Pending.text]
  | some token =>
    obtain ⟨same, tokenValid⟩ := (Pending.finish_eq_some inv.pending).1 finished
    refine ⟨spells_iff.2 (.inr ⟨_, token, Array.toList_push, ?_⟩),
      valid_push inv.tokens tokenValid⟩
    rw [inv.spelled, same, Pending.text_ofToken]

theorem run_visible (scan : Scan) (cs : List Char) :
    cs.foldlM feed scan = (cs.filter (· ≠ ' ')).foldlM feed scan := by
  induction cs generalizing scan with
  | nil => rfl
  | cons c cs ih =>
    by_cases blank : c = ' '
    · subst blank
      rw [List.foldlM_cons, feed_space, ok_bind, ih, List.filter_cons_of_neg (by simp)]
    · rw [List.filter_cons_of_pos (by simpa using blank), List.foldlM_cons, List.foldlM_cons]
      cases scan.feed c with
      | error fault => rfl
      | ok next => exact ih next

theorem feed_of_step {pending next : Pending} (tokens : Array Token) {c : Char}
    {out : Option Token} (visible : c ≠ ' ') (h : pending.step c = .ok (next, out)) :
    feed ⟨pending, tokens⟩ c = .ok (add ⟨pending, tokens⟩ next out) :=
  (feed_eq_ok visible).2 ⟨next, out, h, rfl⟩

/-- Without blanks and commas the scanner only extends the token under way. -/
theorem run_piece {cs : List Char} (plain : ∀ c ∈ cs, c ≠ ' ' ∧ c ≠ ',') (pending : Pending)
    (tokens : Array Token) :
    cs.foldlM feed ⟨pending, tokens⟩ = (cs.foldlM Pending.extend pending).map (⟨·, tokens⟩) := by
  induction cs generalizing pending with
  | nil => rfl
  | cons c cs ih =>
    obtain ⟨⟨visible, other⟩, plain⟩ := List.forall_mem_cons.1 plain
    rw [List.foldlM_cons, List.foldlM_cons]
    cases extended : pending.extend c with
    | ok next =>
      rw [feed_of_step tokens visible (Pending.extend_eq_ok.1 extended), ok_bind, ok_bind]
      exact ih plain next
    | error fault =>
      rw [Pending.extend, if_neg other] at extended
      rw [feed, if_neg visible, map_eq_error.2 (map_eq_error.1 extended)]
      rfl

theorem run_token {token : Token} (valid : token.Valid) (tokens : Array Token) :
    token.text.toList.foldlM feed ⟨.start, tokens⟩ = .ok ⟨.ofToken token, tokens⟩ := by
  have run := Pending.run_text (Pending.valid_ofToken valid)
  rw [Pending.text_ofToken] at run
  rw [run_piece (Pending.run_plain run), run]
  rfl

theorem run_closed {token : Token} (valid : token.Valid) (tokens : Array Token) :
    token.closed.foldlM feed ⟨.start, tokens⟩ = .ok ⟨.start, tokens.push token⟩ := by
  have finished : (Pending.ofToken token).finish = .ok (some token) :=
    (Pending.finish_eq_some (Pending.valid_ofToken valid)).2 ⟨rfl, valid⟩
  rw [Token.closed, List.foldlM_append, run_token valid, ok_bind, List.foldlM_cons,
    feed_of_step tokens (by decide) (Pending.step_comma finished)]
  rfl

theorem run_all {tokens : List Token} (valid : ∀ token ∈ tokens, token.Valid)
    (before : Array Token) :
    (tokens.flatMap Token.closed).foldlM feed ⟨.start, before⟩ =
      .ok ⟨.start, before ++ tokens⟩ := by
  induction tokens generalizing before with
  | nil => simp [pure, Except.pure]
  | cons token tokens ih =>
    rw [List.flatMap_cons, List.foldlM_append, run_closed (valid token List.mem_cons_self), ok_bind,
      ih fun other mem => valid other (List.mem_cons_of_mem _ mem)]
    simp

end Scan

/-- The scanner reads a text as valid tokens exactly when they spell it. -/
theorem tokens_eq_ok {text : String} {ts : List Token} :
    tokens text = .ok ts ↔ Spells ts (visible text) ∧ ∀ token ∈ ts, token.Valid := by
  constructor
  · intro h
    obtain ⟨scan, run, closed⟩ := bind_eq_ok.1 h
    have inv := Scan.Invariant.empty.run run
    exact inv.close closed
  · rintro ⟨spelled, valid⟩
    rw [tokens, Scan.run_visible, ← visible]
    rcases spells_iff.1 spelled with all | ⟨front, last, rfl, all⟩
    · rw [all, Scan.empty, Scan.run_all valid, ok_bind]
      simp [Scan.close, Pending.finish, Except.map]
    · have lastValid := valid last (by simp)
      have frontValid : ∀ token ∈ front, token.Valid := fun token mem => valid token (by simp [mem])
      have finished : (Pending.ofToken last).finish = .ok (some last) :=
        (Pending.finish_eq_some (Pending.valid_ofToken lastValid)).2 ⟨rfl, lastValid⟩
      rw [all, Scan.empty, List.foldlM_append, Scan.run_all frontValid, ok_bind,
        Scan.run_token lastValid, ok_bind]
      simp [Scan.close, finished, Except.map]

/-- A filter is accepted exactly when valid tokens spell it, and then its tokens are sorted by
kind. -/
theorem Selection.parse_eq_ok_iff (text : String) :
    ((∃ s, parse text = .ok s) ↔
        ∃ tokens, Spells tokens (visible text) ∧ ∀ token ∈ tokens, token.Valid) ∧
      ∀ s, parse text = .ok s ↔
        ∃ tokens, (Spells tokens (visible text) ∧ ∀ token ∈ tokens, token.Valid) ∧
          s.Sorts tokens := by
  constructor
  · simp only [parse, map_eq_ok, tokens_eq_ok]
    constructor
    · rintro ⟨s, tokens, spelled, -⟩
      exact ⟨tokens, spelled⟩
    · rintro ⟨tokens, spelled⟩
      exact ⟨ofTokens tokens, tokens, spelled, rfl⟩
  · intro s
    simp only [parse, map_eq_ok, tokens_eq_ok, sorts_iff, eq_comm]

end EventFilter
