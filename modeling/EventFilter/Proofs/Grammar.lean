import EventFilter.Filter.Selection
import EventFilter.Proofs.Numeral

/-! The grammar of filters, said without a scanner: tokens joined by commas, with blanks anywhere.
What a filter selects is its tokens sorted by kind. -/
namespace EventFilter

/-- The bounds are short enough to be compared, and ascend. -/
structure Span.Valid (span : Span) : Prop where
  first : Text.IsNumeral span.first
  last : Text.IsNumeral span.last
  firstShort : span.first.length ≤ Text.maxDigits
  lastShort : span.last.length ≤ Text.maxDigits
  ascending : Text.value span.first < Text.value span.last

namespace Token

def Valid : Token → Prop
  | .id _ digits => Text.IsNumeral digits
  | .range _ span => span.Valid

def isId (side : Side) : Token → Bool
  | .id other _ => other = side
  | .range _ _ => false

def isRange (side : Side) : Token → Bool
  | .id _ _ => false
  | .range other _ => other = side

/-- A token with the comma that ends it. -/
def closed (token : Token) : List Char := token.text.toList ++ [',']

end Token

namespace Grammar

def visible (text : String) : List Char := text.toList.filter (· ≠ ' ')

def joined (tokens : List Token) : List Char :=
  [','].intercalate (tokens.map fun token => token.text.toList)

/-- After the last token there may be one more comma; a comma alone is not a filter. -/
def Spells (tokens : List Token) (cs : List Char) : Prop :=
  cs = joined tokens ∨ tokens ≠ [] ∧ cs = joined tokens ++ [',']

theorem joined_concat (tokens : List Token) (token : Token) :
    joined (tokens ++ [token]) = tokens.flatMap Token.closed ++ token.text.toList := by
  induction tokens with
  | nil => simp [joined]
  | cons first rest ih =>
    have more : (rest ++ [token]).map (fun t => t.text.toList) ≠ [] := by simp
    rw [joined] at ih ⊢
    rw [List.cons_append, List.map_cons, List.intercalate_cons_of_ne_nil more, ih]
    simp [Token.closed]

/-- The last token is either ended by a comma, like all before it, or by the end of the text. -/
theorem spells_iff {tokens : List Token} {cs : List Char} :
    Spells tokens cs ↔ cs = tokens.flatMap Token.closed ∨
      ∃ front last, tokens = front ++ [last] ∧
        cs = front.flatMap Token.closed ++ last.text.toList := by
  rcases List.eq_nil_or_concat tokens with rfl | ⟨front, last, rfl⟩
  · simp [Spells, joined]
  · have ended : joined (front ++ [last]) ++ [','] = (front ++ [last]).flatMap Token.closed := by
      rw [joined_concat]
      simp [Token.closed]
    rw [List.concat_eq_append, Spells, ended, joined_concat]
    constructor
    · rintro (spelled | ⟨-, spelled⟩)
      · exact .inr ⟨front, last, rfl, spelled⟩
      · exact .inl spelled
    · rintro (spelled | ⟨front', last', same, spelled⟩)
      · exact .inr ⟨by simp, spelled⟩
      · obtain ⟨rfl, rfl⟩ := List.append_singleton_inj.1 same
        exact .inl spelled

end Grammar

namespace Selection

/-- Each list holds the tokens of one kind, all of them and in their order. -/
structure Sorts (s : Selection) (tokens : List Token) : Prop where
  includedIds : s.includedIds.map (.id .included) = tokens.filter (Token.isId .included)
  excludedIds : s.excludedIds.map (.id .excluded) = tokens.filter (Token.isId .excluded)
  includedSpans : s.includedSpans.map (.range .included) = tokens.filter (Token.isRange .included)
  excludedSpans : s.excludedSpans.map (.range .excluded) = tokens.filter (Token.isRange .excluded)

theorem map_id_filterMap (side : Side) (tokens : List Token) :
    (tokens.filterMap (id? side)).map (.id side) = tokens.filter (Token.isId side) := by
  induction tokens with
  | nil => rfl
  | cons token tokens ih =>
    cases token with
    | id other digits => by_cases h : other = side <;> simp [id?, Token.isId, h, ih]
    | range other span =>
      rw [List.filterMap_cons_none rfl, List.filter_cons_of_neg (by simp [Token.isId]), ih]

theorem map_range_filterMap (side : Side) (tokens : List Token) :
    (tokens.filterMap (span? side)).map (.range side) = tokens.filter (Token.isRange side) := by
  induction tokens with
  | nil => rfl
  | cons token tokens ih =>
    cases token with
    | id other digits =>
      rw [List.filterMap_cons_none rfl, List.filter_cons_of_neg (by simp [Token.isRange]), ih]
    | range other span => by_cases h : other = side <;> simp [span?, Token.isRange, h, ih]

theorem sorts_ofTokens (tokens : List Token) : (ofTokens tokens).Sorts tokens :=
  ⟨map_id_filterMap .included tokens, map_id_filterMap .excluded tokens,
    map_range_filterMap .included tokens, map_range_filterMap .excluded tokens⟩

theorem Sorts.eq_ofTokens {s : Selection} {tokens : List Token} (h : s.Sorts tokens) :
    s = ofTokens tokens := by
  have kept := sorts_ofTokens tokens
  have id_inj (side : Side) (a b : String) (same : Token.id side a = .id side b) : a = b := by
    injection same
  have range_inj (side : Side) (a b : Span) (same : Token.range side a = .range side b) :
      a = b := by
    injection same
  cases s
  congr 1
  · exact (List.map_inj_right (id_inj _)).1 (h.includedIds.trans kept.includedIds.symm)
  · exact (List.map_inj_right (id_inj _)).1 (h.excludedIds.trans kept.excludedIds.symm)
  · exact (List.map_inj_right (range_inj _)).1 (h.includedSpans.trans kept.includedSpans.symm)
  · exact (List.map_inj_right (range_inj _)).1 (h.excludedSpans.trans kept.excludedSpans.symm)

theorem sorts_iff {s : Selection} {tokens : List Token} : s.Sorts tokens ↔ s = ofTokens tokens :=
  ⟨Sorts.eq_ofTokens, by rintro rfl; exact sorts_ofTokens tokens⟩

end Selection
end EventFilter
