import EventFilter.Cli.Trouble
import EventFilter.Proofs.Compiled
import EventFilter.Proofs.Rejection

/-! Blame. What keeps a query from being compiled is reported as a fault of its filter, which the
report then holds as it was given, or of its severity limit; only a number that is too long, be it
to be read as the bound of a span or to be shown as a limit, is reported as neither. -/
namespace EventFilter

open Grammar Outcome

namespace Cli.Trouble

/-- A fault of the filter that was given as `source`, or of the severity limit. -/
def Blames (source : String) : Trouble → Prop
  | filter _ given => given = some source
  | severity _ => True
  | plain _ _ | declared _ _ => False

/-- A limit that does not exist is blamed, if it can be shown. -/
theorem blames_unknown_iff {source : String} {n : Int} :
    (ofFailure (Severity.unknown (.int n))).Blames source ↔
      (toString n.natAbs).length ≤ Text.maxDigits := by
  simp only [Severity.unknown, Json.isWritable, decide_eq_true_eq]
  split
  next short => exact iff_of_true trivial short
  next long => exact iff_of_false id long

theorem blames_filter_iff {source : String} {fault : Fault} :
    (ofFailure (.filter fault source)).Blames source ↔ fault.kind ≠ .numeral := by
  cases fault <;> simp [ofFailure, ofInteger, Blames, Fault.kind]

end Cli.Trouble

namespace Grammar

/-- A span of two numerals, one of which is too long to be read. -/
def IsOversized (segment : List Char) : Prop :=
  ∃ side first last, Text.IsNumeral first ∧ Text.IsNumeral last ∧
    (Text.maxDigits < first.length ∨ Text.maxDigits < last.length) ∧
    (Token.range side ⟨first, last⟩).text.toList = segment

/-- The first segment that is no token is such a span. -/
def Oversized (text : String) : Prop :=
  ∃ front bad rest, segments (visible text) = front ++ bad :: rest ∧
    (∀ segment ∈ front, IsToken segment) ∧ IsOversized bad

theorem isOversized_iff (source : String) {segment : List Char} :
    IsOversized segment ↔ ∃ message, Rejected source segment .numeral message := by
  constructor
  · rintro ⟨side, first, last, numeral, numeral', oversized, rfl⟩
    by_cases long : Text.maxDigits < first.length
    · exact ⟨_, .oversizedFirst numeral numeral' long⟩
    · exact ⟨_, .oversizedLast numeral numeral' (Nat.not_lt.1 long)
        (oversized.resolve_left long)⟩
  · rintro ⟨message, rejected⟩
    cases rejected with
    | @oversizedFirst side first last numeral numeral' oversized =>
      exact ⟨side, first, last, numeral, numeral', .inl oversized, rfl⟩
    | @oversizedLast side first last numeral numeral' _ oversized =>
      exact ⟨side, first, last, numeral, numeral', .inr oversized, rfl⟩

end Grammar

namespace Token

theorem isOversized_iff_read {segment : List Char} (whole : ',' ∉ segment) :
    IsOversized segment ↔ ∃ fault, read segment = .error fault ∧ fault.kind = .numeral := by
  rw [isOversized_iff ""]
  constructor
  · rintro ⟨message, rejected⟩
    obtain ⟨fault, failed, kind, -⟩ := read_of_rejected whole rejected
    exact ⟨fault, failed, kind⟩
  · rintro ⟨fault, failed, kind⟩
    exact ⟨_, kind ▸ rejected_of_read whole failed⟩

end Token

namespace Selection

theorem oversized_iff {text : String} :
    Oversized text ↔ ∃ fault, parse text = .error fault ∧ fault.kind = .numeral := by
  simp only [parse_eq_error]
  constructor
  · rintro ⟨front, bad, rest, cut, fine, oversized⟩
    have whole := whole_of_segments cut
    obtain ⟨fault, failed, kind⟩ := (Token.isOversized_iff_read whole).1 oversized
    exact ⟨fault, ⟨front, bad, rest, cut, fine, whole, failed⟩, kind⟩
  · rintro ⟨fault, ⟨front, bad, rest, cut, fine, whole, failed⟩, kind⟩
    exact ⟨front, bad, rest, cut, fine, (Token.isOversized_iff_read whole).2 ⟨fault, failed, kind⟩⟩

end Selection

namespace Query

open Cli

theorem compile_blames_iff (source : String) (limit : Option Severity) (label : Option String) :
    (∀ failure, compile source limit label = .error failure →
        (Trouble.ofFailure failure).Blames source) ↔ ¬Oversized (Label.strip label source) := by
  rw [Selection.oversized_iff]
  constructor
  · rintro blamed ⟨fault, failed, kind⟩
    have blames := blamed _ (compile_eq_error.2 (.inl ⟨fault, failed, rfl⟩))
    exact Trouble.blames_filter_iff.1 blames kind
  · intro readable failure failed
    rcases compile_eq_error.1 failed with ⟨fault, unread, rfl⟩ | ⟨s, -, -, rfl⟩
    · exact Trouble.blames_filter_iff.2 fun kind => readable ⟨fault, unread, kind⟩
    · exact Trouble.blames_filter_iff.2 (by decide)

/-- A query is compiled, or else its filter or its limit is blamed, unless the limit is too long to
be shown, or it is one and the filter is wrong first of all in a bound that is too long to be read. -/
theorem ofLevel_blames_iff (given : Option String) (level : Int) (label : Option String) :
    (∀ failure, ofLevel (given.getD "") (.int level) label = .error failure →
        (Trouble.ofFailure failure).Blames (given.getD "")) ↔
      (toString level.natAbs).length ≤ Text.maxDigits ∧
        ¬((level = -1 ∨ 1 ≤ level ∧ level ≤ 5) ∧
          Oversized (Label.strip label (given.getD ""))) := by
  rw [← Severity.code_eq_iff]
  constructor
  · intro blamed
    constructor
    · by_cases known : ∃ limit, Severity.code limit = level
      · obtain ⟨limit, rfl⟩ := known
        exact Severity.short_code limit
      · have failed := Severity.ofJson_int_eq_error.2 ⟨not_exists.1 known, rfl⟩
        exact Trouble.blames_unknown_iff.1 (blamed _ (ofLevel_eq_error.2 (.inl failed)))
    · rintro ⟨⟨limit, rfl⟩, oversized⟩
      refine (compile_blames_iff _ limit label).1 (fun failure failed => ?_) oversized
      exact blamed failure (ofLevel_eq_error.2 (.inr ⟨limit, Severity.ofCode_code limit, failed⟩))
  · rintro ⟨writable, readable⟩ failure failed
    rcases ofLevel_eq_error.1 failed with unknown | ⟨limit, known, uncompiled⟩
    · obtain ⟨-, rfl⟩ := Severity.ofJson_int_eq_error.1 unknown
      exact Trouble.blames_unknown_iff.2 writable
    · have code := Severity.code_of_ofCode known
      refine (compile_blames_iff _ limit label).2 (fun oversized => ?_) failure uncompiled
      exact readable ⟨⟨limit, code⟩, oversized⟩

/-- A bound of one digit too many is blamed neither on the filter nor on the limit. -/
theorem not_blames_long_bound :
    ofLevel ("1-" ++ Text.ones 4301) (.int (-1)) none =
        .error (.filter (.oversizedBound 4301) ("1-" ++ Text.ones 4301)) ∧
      ¬(Trouble.ofFailure (.filter (.oversizedBound 4301) ("1-" ++ Text.ones 4301))).Blames
        ("1-" ++ Text.ones 4301) := by
  have numeral := Text.isNumeral_ones 4300
  have valid : (Pending.range .included "1" (Text.ones 4301)).Valid := ⟨by decide, numeral.2⟩
  have text : (Pending.range .included "1" (Text.ones 4301)).text = "1-" ++ Text.ones 4301 := rfl
  have present : ¬("1" = "" ∨ Text.ones 4301 = "") := not_or.2 ⟨by decide, numeral.1⟩
  have unread : Selection.parse ("1-" ++ Text.ones 4301) = .error (.oversizedBound 4301) := by
    rw [Selection.parse, ← text, tokens_text valid (by simp), Pending.close_range, Span.check_eq,
      if_neg present, if_neg (by decide), if_pos Text.maxDigits_lt_ones,
      Text.length_ones]
    rfl
  refine ⟨ofLevel_eq_error.2 (.inr ⟨none, rfl, compile_eq_error.2 (.inl ⟨_, unread, rfl⟩)⟩), ?_⟩
  rw [Trouble.blames_filter_iff]
  exact fun kind => kind rfl

end Query
end EventFilter
