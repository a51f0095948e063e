import EventFilter.Proofs.Scan

/-! Segments of a filter. The commas cut a filter into segments, and to read the filter is to read
each segment by itself, from the first to the last: nothing that is read of one segment is known in
the next, and the end of the text ends a token as a comma does. -/
namespace EventFilter

open Grammar Outcome

namespace Grammar

/-- What stands between the commas. Nothing needs to stand behind the last of them. -/
def segments (cs : List Char) : List (List Char) :=
  let parts := cs.splitOn ','
  if parts.getLast? = some [] then parts.dropLast else parts

def IsToken (segment : List Char) : Prop :=
  ∃ token : Token, token.Valid ∧ token.text.toList = segment

@[simp] theorem segments_nil : segments [] = [] := by simp [segments]

theorem segments_single {cs : List Char} (plain : ',' ∉ cs) (nonempty : cs ≠ []) :
    segments cs = [cs] := by
  simp [segments, List.splitOn_eq_singleton plain, nonempty]

theorem segments_append {front : List Char} (plain : ',' ∉ front) (rest : List Char) :
    segments (front ++ ',' :: rest) = front :: segments rest := by
  have some_part := List.splitOn_ne_nil ',' rest
  have last : (front :: rest.splitOn ',').getLast? = (rest.splitOn ',').getLast? := by
    rw [List.getLast?_cons_of_ne_nil some_part]
  rw [segments, segments, List.splitOn_append_cons_self_of_not_mem plain]
  simp only [last, List.dropLast_cons_of_ne_nil some_part]
  split <;> rfl

/-- A text is cut at its first comma, and what follows that is cut in the same way. -/
theorem segments_induction {motive : List Char → Prop} (nil : motive [])
    (single : ∀ segment, ',' ∉ segment → segment ≠ [] → motive segment)
    (append : ∀ front rest, ',' ∉ front → motive rest → motive (front ++ ',' :: rest))
    (cs : List Char) : motive cs := by
  induction len : cs.length using Nat.strongRecOn generalizing cs with
  | ind n ih =>
    by_cases comma : ',' ∈ cs
    · obtain ⟨front, rest, rfl, plain⟩ := List.eq_append_cons_of_mem comma
      have shorter : rest.length < n := by
        rw [← len, List.length_append, List.length_cons]
        omega
      exact append front rest plain (ih rest.length shorter rest rfl)
    · by_cases empty : cs = []
      · exact empty ▸ nil
      · exact single cs comma empty

theorem comma_not_mem {cs segment : List Char} (mem : segment ∈ segments cs) :
    ',' ∉ segment := by
  induction cs using segments_induction with
  | nil => simp at mem
  | single cs plain nonempty =>
    rw [segments_single plain nonempty, List.mem_singleton] at mem
    rwa [mem]
  | append front rest plain ih =>
    rw [segments_append plain] at mem
    rcases List.mem_cons.1 mem with rfl | mem
    · exact plain
    · exact ih mem

theorem whole_of_segments {cs segment : List Char} {front rest : List (List Char)}
    (cut : segments cs = front ++ segment :: rest) : ',' ∉ segment := by
  have mem : segment ∈ segments cs := by
    rw [cut]
    exact List.mem_append_cons_self
  exact comma_not_mem mem

end Grammar

/-- The token under way, which must end here. -/
def Pending.close (p : Pending) : Except Fault Token := do
  match ← p.finish with
  | some token => .ok token
  | none => .error .unexpected

/-- Reads a whole segment as one token. -/
def Token.read (segment : List Char) : Except Fault Token := do
  (← segment.foldlM Pending.extend .start).close

namespace Pending

theorem close_number (side : Side) (digits : String) : (number side digits).close =
    if digits = "" then .error .missingId else .ok (.id side digits) := by
  by_cases empty : digits = ""
  · subst empty
    rfl
  · rw [close, finish_number empty, if_neg empty]
    rfl

theorem close_range (side : Side) (first last : String) : (range side first last).close =
    (Span.check side ⟨first, last⟩).map fun _ => .range side ⟨first, last⟩ := by
  rw [close, finish]
  cases Span.check side ⟨first, last⟩ <;> rfl

theorem close_eq_ok {p : Pending} {token : Token} :
    p.close = .ok token ↔ p.finish = .ok (some token) := by
  rw [close, bind_eq_ok]
  constructor
  · rintro ⟨_ | other, finished, ⟨⟩⟩
    exact finished
  · intro finished
    exact ⟨some token, finished, rfl⟩

end Pending

namespace Token

theorem read_whole {p : Pending} (valid : p.Valid) : read p.text.toList = p.close := by
  rw [read, Pending.run_text valid, ok_bind]

/-- A segment is read as a token exactly when it is the text of that token. -/
theorem read_eq_ok {segment : List Char} {token : Token} :
    read segment = .ok token ↔ token.Valid ∧ token.text.toList = segment := by
  simp only [read, bind_eq_ok, Pending.close_eq_ok, Pending.run_eq_ok]
  constructor
  · rintro ⟨p, ⟨valid, rfl⟩, finished⟩
    obtain ⟨rfl, tokenValid⟩ := (Pending.finish_eq_some valid).1 finished
    exact ⟨tokenValid, by rw [Pending.text_ofToken]⟩
  · rintro ⟨valid, rfl⟩
    have pendingValid := Pending.valid_ofToken valid
    exact ⟨_, ⟨pendingValid, by rw [Pending.text_ofToken]⟩,
      (Pending.finish_eq_some pendingValid).2 ⟨rfl, valid⟩⟩

theorem isToken_iff {segment : List Char} :
    IsToken segment ↔ ∃ token, read segment = .ok token := by
  simp only [IsToken, read_eq_ok]

end Token

namespace Scan

theorem feed_comma (p : Pending) (before : Array Token) :
    feed ⟨p, before⟩ ',' = p.close.map fun token => ⟨.start, before.push token⟩ := by
  have stepped : (p.step ',').map (fun next => add ⟨p, before⟩ next.1 next.2) =
      p.close.map fun token => ⟨.start, before.push token⟩ := by
    cases p with
    | start => rfl
    | number side digits =>
      rw [Pending.close_number, Pending.step, if_pos rfl]
      by_cases empty : digits = ""
      · subst empty
        rfl
      · rw [if_neg empty, Pending.finish_number empty]
        rfl
    | range side first last =>
      rw [Pending.close_range, Pending.step, if_pos rfl, Pending.finish]
      cases Span.check side ⟨first, last⟩ <;> rfl
  rw [← stepped]
  rfl

theorem close_of_ne_start {p : Pending} (busy : p ≠ .start) (before : Array Token) :
    close ⟨p, before⟩ = p.close.map fun token => before.toList ++ [token] := by
  rw [close, Pending.close]
  cases finished : p.finish with
  | error fault => rfl
  | ok out =>
    cases out with
    | none => exact absurd (Pending.finish_eq_none.1 finished) busy
    | some token => simp [Except.map]

variable {segment : List Char} (plain : ∀ c ∈ segment, c ≠ ' ' ∧ c ≠ ',')

include plain

/-- A segment that a comma ends is read, and all is as before it but for its token. -/
theorem run_segment (rest : List Char) (before : Array Token) :
    (segment ++ ',' :: rest).foldlM feed ⟨.start, before⟩ =
      Token.read segment >>= fun token => rest.foldlM feed ⟨.start, before.push token⟩ := by
  rw [List.foldlM_append, run_piece plain, Token.read]
  cases segment.foldlM Pending.extend .start with
  | error fault => rfl
  | ok p =>
    show (',' :: rest).foldlM feed ⟨p, before⟩ = _
    rw [List.foldlM_cons, feed_comma, ok_bind]
    cases p.close <;> rfl

theorem run_last (nonempty : segment ≠ []) (before : Array Token) :
    (segment.foldlM feed ⟨.start, before⟩ >>= close) =
      (Token.read segment).map fun token => before.toList ++ [token] := by
  rw [run_piece plain, Token.read]
  cases run : segment.foldlM Pending.extend .start with
  | error fault => rfl
  | ok p =>
    have busy : p ≠ .start := by
      rintro rfl
      exact nonempty (Pending.run_eq_ok.1 run).2.symm
    exact close_of_ne_start busy before

end Scan

/-- Blanks apart, the scanner reads the segments one after the other. -/
theorem run_segments {cs : List Char} (visible : ' ' ∉ cs) (before : Array Token) :
    (cs.foldlM Scan.feed ⟨.start, before⟩ >>= Scan.close) =
      ((segments cs).mapM Token.read).map (before.toList ++ ·) := by
  have plain {segment : List Char} (visible : ' ' ∉ segment) (whole : ',' ∉ segment) :
      ∀ c ∈ segment, c ≠ ' ' ∧ c ≠ ',' := fun c mem =>
    ⟨ne_of_mem_of_not_mem mem visible, ne_of_mem_of_not_mem mem whole⟩
  induction cs using segments_induction generalizing before with
  | nil => simp [Scan.close, Pending.finish, Except.map, pure, Except.pure]
  | single segment whole nonempty =>
    rw [Scan.run_last (plain visible whole) nonempty, segments_single whole nonempty,
      List.mapM_cons]
    cases Token.read segment <;> rfl
  | append front rest whole ih =>
    simp only [List.mem_append, List.mem_cons, not_or] at visible
    rw [Scan.run_segment (plain visible.1 whole), segments_append whole, List.mapM_cons]
    cases Token.read front with
    | error fault => rfl
    | ok token =>
      rw [ok_bind, ok_bind, ih visible.2.2]
      cases (segments rest).mapM Token.read with
      | error fault => rfl
      | ok tokens => simp [Except.map, pure, Except.pure]

theorem tokens_eq_mapM (text : String) :
    tokens text = (segments (visible text)).mapM Token.read := by
  have none : ' ' ∉ visible text := by simp [visible]
  rw [tokens, Scan.run_visible, ← visible]
  refine (run_segments none #[]).trans ?_
  cases (segments (visible text)).mapM Token.read with
  | error fault => rfl
  | ok tokens => simp [Except.map]

/-- The text of a single token that is under way, to its end. -/
theorem tokens_text {p : Pending} (valid : p.Valid) (busy : p ≠ .start) :
    tokens p.text = p.close.map fun token => [token] := by
  have run := Pending.run_text valid
  have plain := Pending.run_plain run
  have shown : visible p.text = p.text.toList := by
    rw [visible, List.filter_eq_self]
    intro c mem
    exact decide_eq_true (plain c mem).1
  have whole : ',' ∉ p.text.toList := fun mem => (plain ',' mem).2 rfl
  have nonempty : p.text.toList ≠ [] := by
    intro empty
    rw [empty] at run
    cases run
    exact busy rfl
  rw [tokens_eq_mapM, shown, segments_single whole nonempty, List.mapM_cons,
    Token.read_whole valid]
  cases p.close <;> rfl

end EventFilter
