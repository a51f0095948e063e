import EventFilter.Proofs.Scan
import EventFilter.Query.Basic

/-! What a compiled query holds: the numbers of a text that was accepted, and the limit that was
asked for. What cannot be compiled fails by its limit, or else by the fault of its filter. -/
namespace EventFilter

open Grammar Outcome

namespace Selection

structure Valid (s : Selection) : Prop where
  includedIds : ∀ id ∈ s.includedIds, Text.IsNumeral id
  excludedIds : ∀ id ∈ s.excludedIds, Text.IsNumeral id
  includedSpans : ∀ span ∈ s.includedSpans, span.Valid
  excludedSpans : ∀ span ∈ s.excludedSpans, span.Valid

theorem Sorts.valid {s : Selection} {tokens : List Token} (sorts : s.Sorts tokens)
    (valid : ∀ token ∈ tokens, token.Valid) : s.Valid := by
  have kept {α : Type} {make : α → Token} {kind : Token → Bool} {items : List α}
      (same : items.map make = tokens.filter kind) : ∀ item ∈ items, (make item).Valid := by
    intro item mem
    have made : make item ∈ tokens.filter kind := same ▸ List.mem_map_of_mem mem
    exact valid _ (List.mem_filter.1 made).1
  exact ⟨kept sorts.includedIds, kept sorts.excludedIds, kept sorts.includedSpans,
    kept sorts.excludedSpans⟩

theorem valid_of_parse {text : String} {s : Selection} (h : parse text = .ok s) : s.Valid := by
  obtain ⟨tokens, read, rfl⟩ := map_eq_ok.1 h
  exact (sorts_ofTokens tokens).valid (tokens_eq_ok.1 read).2

end Selection

theorem Severity.ofJson_eq_ok {level : Json} {limit : Option Severity} :
    ofJson level = .ok limit ↔ level = .int (code limit) := by
  constructor
  · intro known
    cases level with
    | int n => rw [code_of_ofCode known]
    | _ => contradiction
  · rintro rfl
    exact ofCode_code limit

theorem Severity.code_eq_iff {n : Int} : (∃ limit, code limit = n) ↔ n = -1 ∨ 1 ≤ n ∧ n ≤ 5 := by
  constructor
  · rintro ⟨limit, rfl⟩
    rcases limit with _ | severity
    · exact .inl rfl
    · cases severity <;> decide
  · rintro (rfl | ⟨low, high⟩)
    · exact ⟨none, rfl⟩
    · obtain rfl | rfl | rfl | rfl | rfl : n = 1 ∨ n = 2 ∨ n = 3 ∨ n = 4 ∨ n = 5 := by omega
      · exact ⟨some .critical, rfl⟩
      · exact ⟨some .error, rfl⟩
      · exact ⟨some .warning, rfl⟩
      · exact ⟨some .informational, rfl⟩
      · exact ⟨some .verbose, rfl⟩

theorem Severity.short_code (limit : Option Severity) :
    (toString (code limit).natAbs).length ≤ Text.maxDigits := by
  rcases limit with _ | severity
  · decide
  · cases severity <;> decide

theorem Severity.ofCode_absent {n : Int} (absent : ∀ limit, code limit ≠ n) :
    ofCode n = .error (unknown (.int n)) := by
  unfold ofCode
  split
  · exact absurd rfl (absent none)
  · exact absurd rfl (absent (some .critical))
  · exact absurd rfl (absent (some .error))
  · exact absurd rfl (absent (some .warning))
  · exact absurd rfl (absent (some .informational))
  · exact absurd rfl (absent (some .verbose))
  · rfl

theorem Severity.ofJson_int_eq_error {n : Int} {failure : Failure} :
    ofJson (.int n) = .error failure ↔
      (∀ limit, code limit ≠ n) ∧ failure = unknown (.int n) := by
  constructor
  · intro failed
    have absent : ∀ limit, code limit ≠ n := by
      rintro limit rfl
      have known := ofJson_eq_ok.2 (Eq.refl (Json.int (code limit)))
      rw [known] at failed
      contradiction
    rw [ofJson, ofCode_absent absent, Except.error.injEq] at failed
    exact ⟨absent, failed.symm⟩
  · rintro ⟨absent, rfl⟩
    rw [ofJson, ofCode_absent absent]

namespace Query

theorem read_eq_ok {source : String} {label : Option String} {s : Selection} :
    read source label = .ok s ↔ Selection.parse (Label.strip label source) = .ok s :=
  mapError_eq_ok

theorem check_eq_ok {source : String} {s : Selection} :
    check source s = .ok () ↔ s.isAmbiguous = false := by
  unfold check
  cases s.isAmbiguous <;> simp

theorem compile_eq_ok {source : String} {limit : Option Severity} {label : Option String}
    {q : Query} : compile source limit label = .ok q ↔
      Selection.parse (Label.strip label source) = .ok q.selection ∧
        q.selection.isAmbiguous = false ∧ q.source = source ∧ q.limit = limit := by
  obtain ⟨source', limit', selection⟩ := q
  simp only [compile, bind_eq_ok, read_eq_ok]
  constructor
  · rintro ⟨s, parsed, ⟨⟩, checked, ⟨⟩⟩
    exact ⟨parsed, check_eq_ok.1 checked, rfl, rfl⟩
  · rintro ⟨parsed, checked, rfl, rfl⟩
    exact ⟨selection, parsed, (), check_eq_ok.2 checked, rfl⟩

theorem check_eq_error {source : String} {s : Selection} {failure : Failure} :
    check source s = .error failure ↔
      s.isAmbiguous = true ∧ failure = .filter .ambiguous source := by
  unfold check
  cases s.isAmbiguous <;> simp [eq_comm]

/-- A filter fails to be read, or it is ambiguous. -/
theorem compile_eq_error {source : String} {limit : Option Severity} {label : Option String}
    {failure : Failure} : compile source limit label = .error failure ↔
      (∃ fault, Selection.parse (Label.strip label source) = .error fault ∧
          failure = .filter fault source) ∨
        ∃ s, Selection.parse (Label.strip label source) = .ok s ∧ s.isAmbiguous = true ∧
          failure = .filter .ambiguous source := by
  simp only [compile, bind_eq_error, read, mapError_eq_error, mapError_eq_ok, check_eq_error]
  constructor
  · rintro (⟨fault, failed, rfl⟩ | ⟨s, parsed, ambiguous | ⟨⟨⟩, -, ⟨⟩⟩⟩)
    · exact .inl ⟨fault, failed, rfl⟩
    · exact .inr ⟨s, parsed, ambiguous⟩
  · rintro (⟨fault, failed, rfl⟩ | ⟨s, parsed, ambiguous⟩)
    · exact .inl ⟨fault, failed, rfl⟩
    · exact .inr ⟨s, parsed, .inl ambiguous⟩

/-- Only a code of a limit compiles, whatever else is given in its place. -/
theorem ofLevel_eq_ok {source : String} {level : Json} {label : Option String} {q : Query} :
    ofLevel source level label = .ok q ↔
      level = .int (Severity.code q.limit) ∧ compile source q.limit label = .ok q := by
  simp only [ofLevel, bind_eq_ok]
  constructor
  · rintro ⟨limit, known, compiled⟩
    obtain rfl : q.limit = limit := (compile_eq_ok.1 compiled).2.2.2
    exact ⟨Severity.ofJson_eq_ok.1 known, compiled⟩
  · rintro ⟨known, compiled⟩
    exact ⟨q.limit, Severity.ofJson_eq_ok.2 known, compiled⟩

theorem ofLevel_eq_error {source : String} {level : Json} {label : Option String}
    {failure : Failure} : ofLevel source level label = .error failure ↔
      Severity.ofJson level = .error failure ∨
        ∃ limit, Severity.ofJson level = .ok limit ∧
          compile source limit label = .error failure :=
  bind_eq_error

/-- Under a limit that exists only the filter can be at fault. -/
theorem ofLevel_fault {source : String} {limit : Option Severity} {label : Option String}
    {failure : Failure}
    (failed : ofLevel source (.int (Severity.code limit)) label = .error failure) :
    ∃ fault, failure = .filter fault source := by
  rcases ofLevel_eq_error.1 failed with unknown | ⟨limit, -, failed⟩
  · rw [Severity.ofJson, Severity.ofCode_code] at unknown
    contradiction
  · rcases compile_eq_error.1 failed with ⟨fault, -, rfl⟩ | ⟨s, -, -, rfl⟩
    · exact ⟨fault, rfl⟩
    · exact ⟨.ambiguous, rfl⟩

theorem selection_valid {source : String} {level : Json} {label : Option String} {q : Query}
    (h : ofLevel source level label = .ok q) : q.selection.Valid :=
  Selection.valid_of_parse (compile_eq_ok.1 (ofLevel_eq_ok.1 h).2).1

end Query
end EventFilter
