import EventFilter.Proofs.Reordering
import EventFilter.Proofs.Unfiltered

/-! Excluding instead of including. To put a hyphen in front of every token moves each number to the
other side of the selection. The halves of a predicate are built apart, one from any and the other
from all, and yet they say the opposite of one another wherever there is an ID to be judged. -/
namespace EventFilter

open Grammar Outcome Predicate

def Side.opposite : Side → Side
  | included => excluded
  | excluded => included

namespace Token

def side : Token → Side
  | .id side _ | .range side _ => side

/-- The same number or span on the other side. -/
def opposite : Token → Token
  | .id side digits => .id side.opposite digits
  | .range side span => .range side.opposite span

theorem text_opposite {token : Token} (included : token.side = .included) :
    token.opposite.text = "-" ++ token.text := by
  cases token with
  | id side digits =>
    cases included
    simp [opposite, text, Side.opposite, Side.sign]
  | range side span =>
    cases included
    simp [opposite, text, Side.opposite, Side.sign, String.append_assoc]

theorem Valid.opposite {token : Token} (valid : token.Valid) : token.opposite.Valid := by
  cases token <;> exact valid

theorem IsShort.opposite {token : Token} (short : token.IsShort) : token.opposite.IsShort := by
  cases token <;> exact short

end Token

namespace Grammar

/-- The tokens as a filter, with a hyphen in front of each of them. -/
def hyphenated (tokens : List Token) : String :=
  String.ofList ([','].intercalate (tokens.map fun token => '-' :: token.text.toList))

theorem hyphenated_eq {tokens : List Token} (included : ∀ token ∈ tokens, token.side = .included) :
    hyphenated tokens = filterText (tokens.map Token.opposite) := by
  have chars : tokens.map (fun token => '-' :: token.text.toList) =
      (tokens.map Token.opposite).map fun token => token.text.toList := by
    rw [List.map_map]
    apply List.map_congr_left
    intro token mem
    simp [Token.text_opposite (included token mem)]
  rw [hyphenated, chars, filterText, joined]

end Grammar

namespace Selection

def opposite (s : Selection) : Selection :=
  ⟨s.excludedIds, s.includedIds, s.excludedSpans, s.includedSpans⟩

theorem ofTokens_opposite (tokens : List Token) :
    ofTokens (tokens.map Token.opposite) = (ofTokens tokens).opposite := by
  have ids (side : Side) : id? side ∘ Token.opposite = id? side.opposite := by
    funext token
    rcases token with ⟨_ | _, digits⟩ | ⟨_ | _, span⟩ <;> cases side <;> rfl
  have spans (side : Side) : span? side ∘ Token.opposite = span? side.opposite := by
    funext token
    rcases token with ⟨_ | _, digits⟩ | ⟨_ | _, span⟩ <;> cases side <;> rfl
  simp only [ofTokens, opposite, List.filterMap_map, ids, spans, Side.opposite]

theorem ofTokens_included {tokens : List Token}
    (included : ∀ token ∈ tokens, token.side = .included) :
    (ofTokens tokens).excludedIds = [] ∧ (ofTokens tokens).excludedSpans = [] := by
  simp only [ofTokens, List.filterMap_eq_nil_iff]
  constructor
  · intro token mem
    have side := included token mem
    cases token with
    | id other digits => cases side; rfl
    | range other span => rfl
  · intro token mem
    have side := included token mem
    cases token with
    | id other digits => rfl
    | range other span => cases side; rfl

theorem verdict_unlimited {s : Selection} (busy : ¬s.isEmpty = true) (event : Event) :
    s.verdict (-1) event = judge event idField fun n => s.Admits n := by
  simp [verdict, busy]

/-- What is included, and nothing excluded, is just what the opposite does not admit. -/
theorem admits_opposite {s : Selection} (ids : s.excludedIds = []) (spans : s.excludedSpans = [])
    (busy : ¬s.isEmpty = true) (n : Int) : s.opposite.Admits n ↔ ¬s.Admits n := by
  have excluded : ¬s.Excluded n := by simp [Excluded, ids, spans]
  have some : ¬(s.includedIds = [] ∧ s.includedSpans = []) := by
    intro none
    exact busy (isEmpty_iff.2 ⟨none, ids, spans⟩)
  have taken : s.Admits n ↔ s.Included n := by simp [Admits, excluded, some]
  have left : s.opposite.Admits n ↔ ¬s.opposite.Excluded n := by
    simp [Admits, opposite, ids, spans]
  rw [taken, left]
  rfl

end Selection

namespace Query

section

variable {tokens : List Token} (valid : ∀ token ∈ tokens, token.Valid ∧ token.IsShort)

include valid

/-- Without a limit only the ID counts, as soon as there is a token. -/
theorem holds_ofTokens (nonempty : tokens ≠ []) (source : String) (event : Event) :
    (⟨source, none, Selection.ofTokens tokens⟩ : Query).holds event =
      judge event idField fun n => (Selection.ofTokens tokens).Admits n := by
  have sorted := (Selection.sorts_ofTokens tokens).valid fun token mem => (valid token mem).1
  have readable := sorted.readable (Selection.short_ofTokens fun token mem => (valid token mem).2)
  have busy : ¬(Selection.ofTokens tokens).isEmpty = true := by
    rwa [Selection.isEmpty_ofTokens]
  rw [← Selection.verdict_unlimited busy event]
  exact Selection.holds_predicate readable (-1) event

/-- A filter of tokens to include and the one that excludes the same tokens are told apart by every
event that has an ID, and agree on all others. -/
theorem ofLevel_hyphenated (nonempty : tokens ≠ [])
    (included : ∀ token ∈ tokens, token.side = .included) :
    ∃ q q', ofLevel (filterText tokens) (.int (-1)) none = .ok q ∧
      ofLevel (hyphenated tokens) (.int (-1)) none = .ok q' ∧
      q'.selection.excludedIds = q.selection.includedIds ∧
      q'.selection.excludedSpans = q.selection.includedSpans ∧
      ∀ event : Event, match event.present idField with
        | none => q.holds event = .ok false ∧ q'.holds event = .ok false
        | some value => match value.toInt with
          | .error e => q.holds event = .error e ∧ q'.holds event = .error e
          | .ok _ => ∃ b, q.holds event = .ok b ∧ q'.holds event = .ok !b := by
  obtain ⟨ids, spans⟩ := Selection.ofTokens_included included
  have valid' : ∀ token ∈ tokens.map Token.opposite, token.Valid ∧ token.IsShort := by
    rw [List.forall_mem_map]
    intro token mem
    exact ⟨(valid token mem).1.opposite, (valid token mem).2.opposite⟩
  have nonempty' : tokens.map Token.opposite ≠ [] := by simpa using nonempty
  have unlabelled : (none : Option String).getD "" = "" := rfl
  have compiled := ofLevel_filterText (fun token mem => (valid token mem).1) unlabelled none
  have compiled' := ofLevel_filterText (fun token mem => (valid' token mem).1) unlabelled none
  have judged := holds_ofTokens valid nonempty (filterText tokens)
  have judged' := holds_ofTokens valid' nonempty' (filterText (tokens.map Token.opposite))
  rw [Selection.ofTokens_opposite] at compiled' judged'
  have sound : ¬(Selection.ofTokens tokens).isAmbiguous = true := by
    simp [Selection.isAmbiguous, ids]
  have sound' : ¬(Selection.ofTokens tokens).opposite.isAmbiguous = true := by
    simp [Selection.isAmbiguous, Selection.opposite, ids]
  rw [if_neg sound] at compiled
  rw [if_neg sound', ← hyphenated_eq included] at compiled'
  rw [← hyphenated_eq included] at judged'
  refine ⟨_, _, compiled, compiled', rfl, rfl, fun event => ?_⟩
  have busy : ¬(Selection.ofTokens tokens).isEmpty = true := by
    rwa [Selection.isEmpty_ofTokens]
  cases present : event.present idField with
  | none =>
    simp only [judged, judged', judge, present, and_self]
  | some value =>
    simp only [judged, judged', judge_present present]
    cases value.toInt with
    | error e => exact ⟨rfl, rfl⟩
    | ok n =>
      refine ⟨_, rfl, congrArg Except.ok ?_⟩
      simp [Selection.admits_opposite ids spans busy]

end

/-- An ID at the upper bound of the span, one that is no number, and none at all. -/
theorem ofLevel_hyphenated_mixed :
    filterText [.id .included "02", .range .included ⟨"5", "9"⟩] = "02,5-9" ∧
      hyphenated [.id .included "02", .range .included ⟨"5", "9"⟩] = "-02,-5-9" ∧
      ∃ q q', ofLevel "02,5-9" (.int (-1)) none = .ok q ∧
        ofLevel "-02,-5-9" (.int (-1)) none = .ok q' ∧
        q'.selection.excludedIds = q.selection.includedIds ∧
        q'.selection.excludedSpans = q.selection.includedSpans ∧
        (∃ b, q.holds [("EventID", .int 9)] = .ok b ∧ q'.holds [("EventID", .int 9)] = .ok !b) ∧
        (q.holds [("EventID", .str "x")] = .error (.malformed "x") ∧
          q'.holds [("EventID", .str "x")] = .error (.malformed "x")) ∧
        q.holds [("Level", .int 2)] = .ok false ∧ q'.holds [("Level", .int 2)] = .ok false := by
  have text : filterText [.id .included "02", .range .included ⟨"5", "9"⟩] = "02,5-9" := rfl
  have text' : hyphenated [.id .included "02", .range .included ⟨"5", "9"⟩] = "-02,-5-9" := rfl
  have span : Span.Valid ⟨"5", "9"⟩ := by constructor <;> decide
  have valid : ∀ token ∈ [Token.id .included "02", .range .included ⟨"5", "9"⟩],
      token.Valid ∧ token.IsShort := by
    simp only [List.forall_mem_cons, Token.Valid, Token.IsShort]
    exact ⟨by decide, ⟨span, trivial⟩, List.forall_mem_nil _⟩
  have included : ∀ token ∈ [Token.id .included "02", .range .included ⟨"5", "9"⟩],
      token.side = .included := by decide
  obtain ⟨q, q', compiled, compiled', ids, spans, judged⟩ :=
    ofLevel_hyphenated valid (by simp) included
  rw [text] at compiled
  rw [text'] at compiled'
  exact ⟨text, text', q, q', compiled, compiled', ids, spans, judged [("EventID", .int 9)],
    judged [("EventID", .str "x")], judged [("Level", .int 2)]⟩

end Query
end EventFilter
