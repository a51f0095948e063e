import EventFilter.Filter.Selection
import EventFilter.Proofs.Segment

/-! Rejected filters. A segment that is no token has one way of being wrong, which its first stray
character decides, or else what it would be at its end. The first such segment is what the whole
filter is rejected for. -/
namespace EventFilter

open Grammar Outcome

namespace Grammar

/-- What may stand in front of the hyphen of a span, or of a stray character: without a hyphen of its
own, a token begins with a digit. -/
def Opens : Side → String → Prop
  | .included, digits => Text.IsNumeral digits
  | .excluded, digits => Text.Digital digits

def strayMessage (source : String) : String :=
  "Invalid Event ID filter: '" ++ Text.trim source ++ "'"

def oversizedMessage (digits : String) : String :=
  "Exceeds the limit (4300 digits) for integer string conversion: value has "
    ++ toString digits.length ++ " digits; use sys.set_int_max_str_digits() to increase the limit"

/-- How a segment is rejected that is no token, and the message, when the filter was given as
`source`. -/
inductive Rejected (source : String) : List Char → Fault.Kind → String → Prop where
  | empty : Rejected source [] .token (strayMessage source)
  | opening {c : Char} {rest : List Char} (digit : Text.isAsciiDigit c = false)
      (hyphen : c ≠ '-') : Rejected source (c :: rest) .token (strayMessage source)
  | number {side : Side} {digits : String} {c : Char} {rest : List Char}
      (opens : Opens side digits) (digit : Text.isAsciiDigit c = false) (hyphen : c ≠ '-') :
      Rejected source ((side.sign ++ digits).toList ++ c :: rest) .token (strayMessage source)
  | range {side : Side} {first last : String} {c : Char} {rest : List Char}
      (opens : Opens side first) (digital : Text.Digital last)
      (digit : Text.isAsciiDigit c = false) :
      Rejected source ((side.sign ++ first ++ "-" ++ last).toList ++ c :: rest) (.span side)
        ("Invalid " ++ side.adjective ++ " range filter: '" ++ Text.trim source ++ "'")
  | hyphen : Rejected source ['-'] .token
      "Invalid exclusive filter '-'. The event ID must be specified"
  | bound {side : Side} {first last : String} (opens : Opens side first)
      (digital : Text.Digital last) (absent : first = "" ∨ last = "") :
      Rejected source (side.sign ++ first ++ "-" ++ last).toList (.span side)
        ("Invalid " ++ side.adjective ++ " range filter " ++ side.sign ++ "'" ++ first ++ "'-'"
          ++ last ++ "'. Both parts of the range are required")
  | oversizedFirst {side : Side} {first last : String} (numeral : Text.IsNumeral first)
      (numeral' : Text.IsNumeral last) (oversized : Text.maxDigits < first.length) :
      Rejected source (side.sign ++ first ++ "-" ++ last).toList .numeral (oversizedMessage first)
  | oversizedLast {side : Side} {first last : String} (numeral : Text.IsNumeral first)
      (numeral' : Text.IsNumeral last) (short : first.length ≤ Text.maxDigits)
      (oversized : Text.maxDigits < last.length) :
      Rejected source (side.sign ++ first ++ "-" ++ last).toList .numeral (oversizedMessage last)
  | descending {side : Side} {first last : String} (numeral : Text.IsNumeral first)
      (numeral' : Text.IsNumeral last) (short : first.length ≤ Text.maxDigits)
      (short' : last.length ≤ Text.maxDigits) (order : Text.value last ≤ Text.value first) :
      Rejected source (side.sign ++ first ++ "-" ++ last).toList (.span side)
        ("Invalid " ++ side.adjective ++ " range filter '" ++ side.sign
          ++ toString (Text.value first) ++ "-" ++ toString (Text.value last)
          ++ "'. Begin must be < end")

theorem message_oversized (n : Nat) : (IntegerError.oversized n).message =
    "Exceeds the limit (4300 digits) for integer string conversion: value has " ++ toString n
      ++ " digits; use sys.set_int_max_str_digits() to increase the limit" := by
  have opening : "Exceeds the limit (" ++ toString Text.maxDigits
      ++ " digits) for integer string conversion: value has " =
        "Exceeds the limit (4300 digits) for integer string conversion: value has " := by decide
  rw [← opening]
  rfl

theorem message_oversizedBound (source digits : String) :
    (Fault.oversizedBound digits.length).message source = oversizedMessage digits :=
  message_oversized digits.length

theorem opens_iff {side : Side} {digits : String} :
    Opens side digits ↔ (Pending.number side digits).Valid := by
  cases side <;> rfl

theorem Opens.of_isNumeral {digits : String} (numeral : Text.IsNumeral digits) (side : Side) :
    Opens side digits := by
  cases side with
  | included => exact numeral
  | excluded => exact numeral.2

end Grammar

namespace Pending

/-- A character that is no digit cannot stand here, for this fault. A hyphen can, but only one. -/
def Strays : Pending → Char → Fault → Prop
  | start, c, fault | number _ _, c, fault => c ≠ '-' ∧ fault = .unexpected
  | range side _ _, _, fault => fault = .malformedSpan side

theorem extend_eq_error {p : Pending} {c : Char} (comma : c ≠ ',') {fault : Fault} :
    p.extend c = .error fault ↔ Text.isAsciiDigit c = false ∧ p.Strays c fault := by
  rw [extend, if_neg comma, map_eq_error]
  cases digit : Text.isAsciiDigit c <;> cases p with
  | start => by_cases hyphen : c = '-' <;> simp [step, Strays, digit, hyphen, eq_comm]
  | number side digits =>
    by_cases hyphen : c = '-' <;> simp [step, Strays, digit, comma, hyphen, eq_comm]
  | range side first last => simp [step, Strays, digit, comma, eq_comm]

end Pending

namespace Token

/-- The first stray character decides, whatever follows it. -/
theorem read_stray {p : Pending} (valid : p.Valid) {c : Char} {fault : Fault}
    (stray : p.extend c = .error fault) (rest : List Char) :
    read (p.text.toList ++ c :: rest) = .error fault := by
  rw [read, List.foldlM_append, Pending.run_text valid, ok_bind, List.foldlM_cons, stray,
    error_bind, error_bind]

theorem read_error {segment : List Char} {fault : Fault} (failed : read segment = .error fault) :
    (∃ p : Pending, ∃ c rest, segment = p.text.toList ++ c :: rest ∧ p.Valid ∧
      p.extend c = .error fault) ∨
      ∃ p : Pending, segment = p.text.toList ∧ p.Valid ∧ p.close = .error fault := by
  rcases bind_eq_error.1 failed with broken | ⟨p, run, unclosed⟩
  · obtain ⟨front, c, rest, p, rfl, run, stray⟩ := foldlM_error broken
    obtain ⟨valid, rfl⟩ := Pending.run_eq_ok.1 run
    exact .inl ⟨p, c, rest, rfl, valid, stray⟩
  · obtain ⟨valid, rfl⟩ := Pending.run_eq_ok.1 run
    exact .inr ⟨p, rfl, valid, unclosed⟩

variable {source : String}

theorem rejected_stray {p : Pending} (valid : p.Valid) {c : Char} (comma : c ≠ ',') {fault : Fault}
    (stray : p.extend c = .error fault) (rest : List Char) :
    Rejected source (p.text.toList ++ c :: rest) fault.kind (fault.message source) := by
  cases p with
  | start =>
    obtain ⟨digit, hyphen, rfl⟩ := (Pending.extend_eq_error comma).1 stray
    exact .opening digit hyphen
  | number side digits =>
    obtain ⟨digit, hyphen, rfl⟩ := (Pending.extend_eq_error comma).1 stray
    exact .number (opens_iff.2 valid) digit hyphen
  | range side first last =>
    obtain ⟨digit, rfl⟩ := (Pending.extend_eq_error comma).1 stray
    obtain ⟨opens, digital⟩ := Pending.valid_range.1 valid
    exact .range (opens_iff.2 opens) digital digit

theorem rejected_bounds {side : Side} {first last : String} (opens : Opens side first)
    (digital : Text.Digital last) {fault : Fault}
    (failed : Span.check side ⟨first, last⟩ = .error fault) :
    Rejected source (side.sign ++ first ++ "-" ++ last).toList fault.kind
      (fault.message source) := by
  rw [Span.check_eq] at failed
  split at failed
  next absent =>
    cases failed
    exact .bound opens digital absent
  next present =>
    obtain ⟨some_first, some_last⟩ := not_or.1 present
    have numeral : Text.IsNumeral first := ⟨some_first, (opens_iff.1 opens).number⟩
    have numeral' : Text.IsNumeral last := ⟨some_last, digital⟩
    split at failed
    next oversized =>
      cases failed
      rw [message_oversizedBound]
      exact .oversizedFirst numeral numeral' oversized
    next short =>
      split at failed
      next oversized =>
        cases failed
        rw [message_oversizedBound]
        exact .oversizedLast numeral numeral' (Nat.not_lt.1 short) oversized
      next short' =>
        split at failed
        next => contradiction
        next order =>
          cases failed
          exact .descending numeral numeral' (Nat.not_lt.1 short) (Nat.not_lt.1 short')
            (Nat.not_lt.1 order)

theorem rejected_whole {p : Pending} (valid : p.Valid) {fault : Fault}
    (unclosed : p.close = .error fault) :
    Rejected source p.text.toList fault.kind (fault.message source) := by
  cases p with
  | start =>
    cases unclosed
    exact .empty
  | number side digits =>
    rw [Pending.close_number] at unclosed
    split at unclosed
    next empty =>
      subst empty
      cases unclosed
      cases side with
      | included => exact absurd rfl valid.1
      | excluded => exact .hyphen
    next => contradiction
  | range side first last =>
    rw [Pending.close_range] at unclosed
    obtain ⟨opens, digital⟩ := Pending.valid_range.1 valid
    exact rejected_bounds (opens_iff.2 opens) digital (map_eq_error.1 unclosed)

theorem ne_comma {front rest : List Char} {c : Char} (whole : ',' ∉ front ++ c :: rest) :
    c ≠ ',' := by
  rintro rfl
  exact whole List.mem_append_cons_self

theorem rejected_of_read {segment : List Char} (whole : ',' ∉ segment) {fault : Fault}
    (failed : read segment = .error fault) :
    Rejected source segment fault.kind (fault.message source) := by
  rcases read_error failed with ⟨p, c, rest, rfl, valid, stray⟩ | ⟨p, rfl, valid, unclosed⟩
  · exact rejected_stray valid (ne_comma whole) stray rest
  · exact rejected_whole valid unclosed

theorem read_bounds {side : Side} {first last : String} (opens : Opens side first)
    (digital : Text.Digital last) : read (side.sign ++ first ++ "-" ++ last).toList =
      (Span.check side ⟨first, last⟩).map fun _ => .range side ⟨first, last⟩ := by
  have valid : (Pending.range side first last).Valid :=
    Pending.valid_range.2 ⟨opens_iff.1 opens, digital⟩
  rw [← Pending.close_range, ← read_whole valid]
  rfl

theorem read_of_rejected {segment : List Char} (whole : ',' ∉ segment) {kind : Fault.Kind}
    {message : String} (rejected : Rejected source segment kind message) :
    ∃ fault, read segment = .error fault ∧ fault.kind = kind ∧ fault.message source = message := by
  cases rejected with
  | empty => exact ⟨.unexpected, rfl, rfl, rfl⟩
  | opening digit hyphen =>
    have comma := List.ne_of_not_mem_cons whole
    have stray := (Pending.extend_eq_error (p := .start) comma.symm).2 ⟨digit, hyphen, rfl⟩
    exact ⟨.unexpected, read_stray (p := .start) trivial stray _, rfl, rfl⟩
  | @number side digits c rest opens digit hyphen =>
    have stray := (Pending.extend_eq_error (p := .number side digits) (ne_comma whole)).2
      ⟨digit, hyphen, rfl⟩
    exact ⟨.unexpected, read_stray (opens_iff.1 opens) stray _, rfl, rfl⟩
  | @range side first last c rest opens digital digit =>
    have valid := Pending.valid_range.2 ⟨opens_iff.1 opens, digital⟩
    have stray := (Pending.extend_eq_error (p := .range side first last) (ne_comma whole)).2
      ⟨digit, rfl⟩
    exact ⟨.malformedSpan side, read_stray valid stray _, rfl, rfl⟩
  | hyphen => exact ⟨.missingId, rfl, rfl, rfl⟩
  | @bound side first last opens digital absent =>
    rw [read_bounds opens digital, Span.check_eq, if_pos absent]
    exact ⟨.missingBound side ⟨first, last⟩, rfl, rfl, rfl⟩
  | @oversizedFirst side first last numeral numeral' oversized =>
    have present := not_or.2 ⟨numeral.1, numeral'.1⟩
    rw [read_bounds (.of_isNumeral numeral side) numeral'.2, Span.check_eq, if_neg present,
      if_pos oversized]
    exact ⟨.oversizedBound first.length, rfl, rfl, message_oversizedBound source first⟩
  | @oversizedLast side first last numeral numeral' short oversized =>
    have present := not_or.2 ⟨numeral.1, numeral'.1⟩
    rw [read_bounds (.of_isNumeral numeral side) numeral'.2, Span.check_eq, if_neg present,
      if_neg (Nat.not_lt.2 short), if_pos oversized]
    exact ⟨.oversizedBound last.length, rfl, rfl, message_oversizedBound source last⟩
  | @descending side first last numeral numeral' short short' order =>
    have present := not_or.2 ⟨numeral.1, numeral'.1⟩
    rw [read_bounds (.of_isNumeral numeral side) numeral'.2, Span.check_eq, if_neg present,
      if_neg (Nat.not_lt.2 short), if_neg (Nat.not_lt.2 short'), if_neg (Nat.not_lt.2 order)]
    exact ⟨.notAscending side (Text.value first) (Text.value last), rfl, rfl, rfl⟩

end Token

namespace Selection

theorem parse_eq_error {text : String} {fault : Fault} : parse text = .error fault ↔
    ∃ front bad rest, segments (visible text) = front ++ bad :: rest ∧
      (∀ segment ∈ front, IsToken segment) ∧ ',' ∉ bad ∧ Token.read bad = .error fault := by
  simp only [parse, map_eq_error, tokens_eq_mapM, mapM_eq_error, Token.isToken_iff]
  constructor
  · rintro ⟨front, bad, rest, cut, fine, failed⟩
    exact ⟨front, bad, rest, cut, fine, whole_of_segments cut, failed⟩
  · rintro ⟨front, bad, rest, cut, fine, -, failed⟩
    exact ⟨front, bad, rest, cut, fine, failed⟩

/-- A filter is rejected for its first segment that is no token, whatever follows it. -/
theorem parse_eq_error_iff (text source : String) (kind : Fault.Kind) (message : String) :
    (∃ fault, parse text = .error fault ∧ fault.kind = kind ∧ fault.message source = message) ↔
      ∃ front bad rest, segments (visible text) = front ++ bad :: rest ∧
        (∀ segment ∈ front, IsToken segment) ∧ ¬IsToken bad ∧
        Rejected source bad kind message := by
  simp only [parse_eq_error]
  constructor
  · rintro ⟨fault, ⟨front, bad, rest, cut, fine, whole, failed⟩, rfl, rfl⟩
    refine ⟨front, bad, rest, cut, fine, ?_, Token.rejected_of_read whole failed⟩
    simp [Token.isToken_iff, failed]
  · rintro ⟨front, bad, rest, cut, fine, -, rejected⟩
    have whole := whole_of_segments cut
    obtain ⟨fault, failed, same⟩ := Token.read_of_rejected whole rejected
    exact ⟨fault, ⟨front, bad, rest, cut, fine, whole, failed⟩, same⟩

/-- The last segment is wrong as well, and so is the filter as a whole. -/
example : parse "1, 7-, -x, 2" = .error (.missingBound .included ⟨"7", ""⟩) := by rfl

end Selection
end EventFilter
