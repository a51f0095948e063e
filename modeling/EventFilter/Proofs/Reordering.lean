import EventFilter.Proofs.Verdict

/-! The order of tokens. To move tokens about moves numbers about within the four lists of a
selection. That changes neither whether the selection is ambiguous nor what it says of an event,
errors included, and if the tokens of each kind keep their order it changes nothing at all. -/
namespace EventFilter

open Grammar Outcome Predicate

namespace Token

/-- A single ID that is short enough to be read. The bounds of a valid span are. -/
def IsShort : Token → Prop
  | .id _ digits => digits.length ≤ Text.maxDigits
  | .range _ _ => True

theorem blank_not_mem {token : Token} (valid : token.Valid) : ' ' ∉ token.text.toList := by
  have run := Pending.run_text (Pending.valid_ofToken valid)
  rw [Pending.text_ofToken] at run
  intro mem
  exact (Pending.run_plain run ' ' mem).1 rfl

end Token

namespace Grammar

/-- The tokens as a filter, with a comma between each two. -/
def filterText (tokens : List Token) : String := String.ofList (joined tokens)

theorem blank_not_mem_joined {tokens : List Token} (valid : ∀ token ∈ tokens, token.Valid) :
    ' ' ∉ joined tokens := by
  rcases List.eq_nil_or_concat tokens with rfl | ⟨front, last, rfl⟩
  · exact List.not_mem_nil
  · rw [List.concat_eq_append] at valid ⊢
    obtain ⟨validFront, validLast⟩ := List.forall_mem_append.1 valid
    rw [joined_concat, List.mem_append, List.mem_flatMap]
    rintro (⟨token, mem, inside⟩ | inside)
    · rw [Token.closed, List.mem_append, List.mem_singleton] at inside
      rcases inside with inside | comma
      · exact Token.blank_not_mem (validFront token mem) inside
      · contradiction
    · exact Token.blank_not_mem (List.forall_mem_singleton.1 validLast) inside

end Grammar

namespace Selection

theorem parse_filterText {tokens : List Token} (valid : ∀ token ∈ tokens, token.Valid) :
    parse (filterText tokens) = .ok (ofTokens tokens) := by
  have spelled : visible (filterText tokens) = joined tokens := by
    rw [visible, filterText, String.toList_ofList, List.filter_eq_self]
    intro c mem
    exact decide_eq_true (ne_of_mem_of_not_mem mem (blank_not_mem_joined valid))
  rw [parse, tokens_eq_ok.2 ⟨.inl spelled, valid⟩]
  rfl

/-- The same numbers in each of the lists, each as often, but perhaps in another order. -/
structure Rearranges (s t : Selection) : Prop where
  includedIds : s.includedIds.Perm t.includedIds
  excludedIds : s.excludedIds.Perm t.excludedIds
  includedSpans : s.includedSpans.Perm t.includedSpans
  excludedSpans : s.excludedSpans.Perm t.excludedSpans

theorem rearranges_ofTokens {tokens tokens' : List Token} (perm : tokens.Perm tokens') :
    (ofTokens tokens).Rearranges (ofTokens tokens') :=
  ⟨perm.filterMap _, perm.filterMap _, perm.filterMap _, perm.filterMap _⟩

/-- Four lists come from the tokens of four kinds, so these decide. -/
theorem ofTokens_eq {tokens tokens' : List Token}
    (ids : ∀ side, tokens.filter (Token.isId side) = tokens'.filter (Token.isId side))
    (ranges : ∀ side, tokens.filter (Token.isRange side) = tokens'.filter (Token.isRange side)) :
    ofTokens tokens = ofTokens tokens' := by
  have sorts := sorts_ofTokens tokens
  rw [← sorts_iff]
  exact ⟨sorts.includedIds.trans (ids _), sorts.excludedIds.trans (ids _),
    sorts.includedSpans.trans (ranges _), sorts.excludedSpans.trans (ranges _)⟩

/-- Single IDs come from single tokens. -/
theorem short_ofTokens {tokens : List Token} (short : ∀ token ∈ tokens, token.IsShort) :
    ∀ id ∈ (ofTokens tokens).includedIds ++ (ofTokens tokens).excludedIds,
      id.length ≤ Text.maxDigits := by
  have kept (side : Side) : ∀ id ∈ tokens.filterMap (id? side), id.length ≤ Text.maxDigits := by
    intro id mem
    have made : Token.id side id ∈ tokens.filter (Token.isId side) := by
      rw [← map_id_filterMap]
      exact List.mem_map_of_mem mem
    exact short _ (List.mem_filter.1 made).1
  exact List.forall_mem_append.2 ⟨kept .included, kept .excluded⟩

namespace Rearranges

variable {s t : Selection} (moved : s.Rearranges t)

include moved

theorem isAmbiguous : s.isAmbiguous = t.isAmbiguous := by
  rw [Selection.isAmbiguous, Selection.isAmbiguous, moved.includedIds.isEmpty_eq,
    moved.excludedIds.isEmpty_eq, moved.includedSpans.isEmpty_eq]

theorem isEmpty : s.isEmpty = t.isEmpty := by
  rw [Selection.isEmpty, Selection.isEmpty, moved.includedIds.isEmpty_eq,
    moved.excludedIds.isEmpty_eq, moved.includedSpans.isEmpty_eq, moved.excludedSpans.isEmpty_eq]

theorem admits (n : Int) : s.Admits n ↔ t.Admits n := by
  have noIds : s.includedIds = [] ↔ t.includedIds = [] := by
    rw [← List.isEmpty_iff, moved.includedIds.isEmpty_eq, List.isEmpty_iff]
  have noSpans : s.includedSpans = [] ↔ t.includedSpans = [] := by
    rw [← List.isEmpty_iff, moved.includedSpans.isEmpty_eq, List.isEmpty_iff]
  simp only [Admits, Included, Excluded, noIds, noSpans, moved.includedIds.mem_iff,
    moved.excludedIds.mem_iff, moved.includedSpans.mem_iff, moved.excludedSpans.mem_iff]

/-- The verdict knows of a selection no more than whether it is empty and what it admits. -/
theorem verdict (limit : Int) (event : Event) : s.verdict limit event = t.verdict limit event := by
  simp only [Selection.verdict, moved.isEmpty, moved.admits]

end Rearranges
end Selection

namespace Query

theorem ofLevel_filterText {tokens : List Token} (valid : ∀ token ∈ tokens, token.Valid)
    {label : Option String} (unlabelled : label.getD "" = "") (limit : Option Severity) :
    ofLevel (filterText tokens) (.int (Severity.code limit)) label =
      if (Selection.ofTokens tokens).isAmbiguous then
        .error (.filter .ambiguous (filterText tokens))
      else .ok ⟨filterText tokens, limit, Selection.ofTokens tokens⟩ := by
  have whole (text : String) : Label.strip label text = text := by
    cases label with
    | none => rfl
    | some label => rw [Option.getD_some] at unlabelled; rw [unlabelled]; rfl
  have parsed := Selection.parse_filterText valid
  rw [← whole (filterText tokens)] at parsed
  split
  next ambiguous =>
    exact ofLevel_eq_error.2 (.inr ⟨limit, Severity.ofCode_code limit,
      compile_eq_error.2 (.inr ⟨_, parsed, ambiguous, rfl⟩)⟩)
  next sound =>
    exact ofLevel_eq_ok.2 ⟨rfl, compile_eq_ok.2 ⟨parsed, Bool.eq_false_iff.2 sound, rfl, rfl⟩⟩

/-- Tokens in another order are compiled as well or are as ambiguous. What is compiled says the same
of every event, and reads the same if the tokens of each kind are in the same order. -/
theorem ofLevel_perm {tokens tokens' : List Token}
    (valid : ∀ token ∈ tokens, token.Valid ∧ token.IsShort) (perm : tokens.Perm tokens')
    {level : Int} (known : level = -1 ∨ 1 ≤ level ∧ level ≤ 5) {label : Option String}
    (unlabelled : label.getD "" = "") :
    (∃ q q', ofLevel (filterText tokens) (.int level) label = .ok q ∧
        ofLevel (filterText tokens') (.int level) label = .ok q' ∧
        (∀ event, q'.holds event = q.holds event) ∧
        ((∀ side, tokens.filter (Token.isId side) = tokens'.filter (Token.isId side) ∧
          tokens.filter (Token.isRange side) = tokens'.filter (Token.isRange side)) →
            q'.text = q.text)) ∨
      ofLevel (filterText tokens) (.int level) label =
          .error (.filter .ambiguous (filterText tokens)) ∧
        ofLevel (filterText tokens') (.int level) label =
          .error (.filter .ambiguous (filterText tokens')) := by
  obtain ⟨limit, rfl⟩ := Severity.code_eq_iff.2 known
  have moved := Selection.rearranges_ofTokens perm
  have valid' : ∀ token ∈ tokens', token.Valid ∧ token.IsShort := fun token mem =>
    valid token (perm.mem_iff.2 mem)
  have compiled := ofLevel_filterText (fun token mem => (valid token mem).1) unlabelled limit
  have compiled' := ofLevel_filterText (fun token mem => (valid' token mem).1) unlabelled limit
  cases ambiguous : (Selection.ofTokens tokens).isAmbiguous with
  | true =>
    rw [if_pos ambiguous] at compiled
    rw [if_pos (moved.isAmbiguous ▸ ambiguous)] at compiled'
    exact .inr ⟨compiled, compiled'⟩
  | false =>
    rw [if_neg (Bool.eq_false_iff.1 ambiguous)] at compiled
    rw [if_neg (Bool.eq_false_iff.1 (moved.isAmbiguous ▸ ambiguous))] at compiled'
    refine .inl ⟨_, _, compiled, compiled', fun event => ?_, fun kept => ?_⟩
    · have short := Selection.short_ofTokens fun token mem => (valid token mem).2
      have short' := Selection.short_ofTokens fun token mem => (valid' token mem).2
      have readable := (selection_valid compiled).readable short
      have readable' := (selection_valid compiled').readable short'
      rw [holds, predicate, Selection.holds_predicate readable', holds, predicate,
        Selection.holds_predicate readable, moved.verdict]
    · have same := Selection.ofTokens_eq (fun side => (kept side).1) fun side => (kept side).2
      simp only [text, predicate, same]

/-- Tokens of three kinds, moved past one another but not past those of their own kind. -/
theorem ofLevel_perm_mixed :
    filterText [.id .included "1", .range .included ⟨"5", "9"⟩, .id .excluded "7",
        .id .included "02"] = "1,5-9,-7,02" ∧
      filterText [.id .excluded "7", .id .included "1", .id .included "02",
        .range .included ⟨"5", "9"⟩] = "-7,1,02,5-9" ∧
      ∃ q q', ofLevel "1,5-9,-7,02" (.int 3) none = .ok q ∧
        ofLevel "-7,1,02,5-9" (.int 3) none = .ok q' ∧
        q'.holds [("EventID", .str "x"), ("Level", .int 2)] =
          q.holds [("EventID", .str "x"), ("Level", .int 2)] ∧
        q'.text = q.text := by
  have text : filterText [.id .included "1", .range .included ⟨"5", "9"⟩, .id .excluded "7",
      .id .included "02"] = "1,5-9,-7,02" := rfl
  have text' : filterText [.id .excluded "7", .id .included "1", .id .included "02",
      .range .included ⟨"5", "9"⟩] = "-7,1,02,5-9" := rfl
  have span : Span.Valid ⟨"5", "9"⟩ := by constructor <;> decide
  have valid : ∀ token ∈ [Token.id .included "1", .range .included ⟨"5", "9"⟩, .id .excluded "7",
      .id .included "02"], token.Valid ∧ token.IsShort := by
    simp only [List.forall_mem_cons, Token.Valid, Token.IsShort]
    refine ⟨by decide, ⟨span, trivial⟩, by decide, by decide, by simp⟩
  have perm : [Token.id .included "1", .range .included ⟨"5", "9"⟩, .id .excluded "7",
      .id .included "02"].Perm [.id .excluded "7", .id .included "1", .id .included "02",
        .range .included ⟨"5", "9"⟩] := by decide
  have known : (3 : Int) = -1 ∨ 1 ≤ (3 : Int) ∧ (3 : Int) ≤ 5 := by decide
  have unlabelled : (none : Option String).getD "" = "" := rfl
  refine ⟨text, text', ?_⟩
  rcases ofLevel_perm valid perm known unlabelled with
    ⟨q, q', compiled, compiled', same, kept⟩ | ⟨ambiguous, -⟩
  · rw [text] at compiled
    rw [text'] at compiled'
    refine ⟨q, q', compiled, compiled', same _, kept ?_⟩
    rintro (_ | _) <;> exact ⟨rfl, rfl⟩
  · rw [text] at ambiguous
    contradiction

end Query
end EventFilter
