import EventFilter.Proofs.Canonical

/-! Unique reading. The text of a predicate shows its tree, up to what its canonical form leaves
out: words end at a blank or at a bracket, so the text of a member tells where that member ends,
whatever text follows it. -/
namespace EventFilter

/-- A word of the printed text goes on. -/
def isWordChar (c : Char) : Bool := c ≠ ' ' && c ≠ ')'

/-- What may follow a word. -/
def Stops (rest : List Char) : Prop := ∀ c, rest.head? = some c → isWordChar c = false

theorem Stops.nil : Stops [] := by
  intro c h
  contradiction

theorem Stops.cons {c : Char} {rest : List Char} (stop : isWordChar c = false) :
    Stops (c :: rest) := by
  rintro _ ⟨⟩
  exact stop

theorem word_unique {a b r s : List Char} (wordA : ∀ c ∈ a, isWordChar c = true)
    (wordB : ∀ c ∈ b, isWordChar c = true) (stopR : Stops r) (stopS : Stops s)
    (same : a ++ r = b ++ s) : a = b ∧ r = s := by
  have front {word rest : List Char} (inside : ∀ c ∈ word, isWordChar c = true)
      (stop : Stops rest) : (word ++ rest).takeWhile isWordChar = word := by
    rw [List.takeWhile_append_of_pos inside]
    cases rest with
    | nil => simp
    | cons c rest => simp [stop c rfl]
  have words : a = b := by rw [← front wordA stopR, same, front wordB stopS]
  subst words
  exact ⟨rfl, List.append_cancel_left same⟩

theorem Relation.symbol_word (relation : Relation) :
    ∀ c ∈ relation.symbol.toList, isWordChar c = true := by
  rw [← List.all_eq_true]
  cases relation <;> rfl

theorem Relation.symbol_injective {a b : Relation} (same : a.symbol = b.symbol) : a = b := by
  have read := congrArg ofSymbol? same
  rw [ofSymbol?_symbol, ofSymbol?_symbol] at read
  exact Option.some.inj read

namespace Operand

theorem display_chars {operand : Operand} (plain : operand.Plain) :
    (∃ b, operand = flag b) ∨ (operand.canonical = text operand.display ∧
      ∀ c ∈ operand.display.toList, Text.isAsciiDigit c = true ∨ c = '-') := by
  cases operand with
  | flag b => exact .inl ⟨b, rfl⟩
  | text numeral => exact .inr ⟨rfl, fun c hc => .inl (plain.2 c hc)⟩
  | int n =>
    refine .inr ⟨rfl, fun c hc => ?_⟩
    rw [display, Int.toString_eq_repr, Int.repr_eq_if] at hc
    split at hc
    · exact .inl ((Text.isNumeral_toString n.toNat).2 c hc)
    · rw [String.toList_append, List.mem_append] at hc
      rcases hc with hc | hc
      · exact .inr (by simpa using hc)
      · exact .inl ((Text.isNumeral_toString (-n).toNat).2 c hc)

theorem digit_word {c : Char} (h : Text.isAsciiDigit c = true ∨ c = '-') : isWordChar c = true := by
  rcases h with digit | rfl
  · simp [isWordChar, Text.isAsciiDigit_ne digit (d := ' ') rfl,
      Text.isAsciiDigit_ne digit (d := ')') rfl]
  · rfl

theorem display_word {operand : Operand} (plain : operand.Plain) :
    ∀ c ∈ operand.display.toList, isWordChar c = true := by
  rcases display_chars plain with ⟨b, rfl⟩ | ⟨-, chars⟩
  · rw [← List.all_eq_true]
    cases b <;> rfl
  · exact fun c hc => digit_word (chars c hc)

/-- No number is shown as a truth value is: there is a letter in both of those. -/
theorem display_ne_flag {operand : Operand} {b : Bool}
    (chars : ∀ c ∈ operand.display.toList, Text.isAsciiDigit c = true ∨ c = '-') :
    operand.display ≠ (flag b).display := by
  intro same
  have letter : 'e' ∈ operand.display.toList := by
    rw [same]
    cases b <;> decide
  exact absurd (chars 'e' letter) (by decide)

theorem canonical_eq_of_display {a b : Operand} (plainA : a.Plain) (plainB : b.Plain)
    (same : a.display = b.display) : a.canonical = b.canonical := by
  rcases display_chars plainA with ⟨x, rfl⟩ | ⟨textA, charsA⟩ <;>
    rcases display_chars plainB with ⟨y, rfl⟩ | ⟨textB, charsB⟩
  · cases x <;> cases y
    all_goals first
      | rfl
      | exact absurd same (by decide)
  · exact absurd same.symm (display_ne_flag charsB)
  · exact absurd same (display_ne_flag charsA)
  · rw [textA, textB, same]

end Operand

/-- A field is named by letters and digits, ASCII ones alone. -/
def IsName (field : String) : Prop := field ≠ "" ∧ ∀ c ∈ field.toList, c.isAlphanum = true

instance (field : String) : Decidable (IsName field) :=
  decidable_of_iff (field ≠ "" ∧ field.toList.all Char.isAlphanum = true)
    (and_congr_right' List.all_eq_true)

structure Comparison.Plain (c : Comparison) : Prop where
  field : IsName c.field
  operand : c.operand.Plain

namespace Predicate

abbrev Plain (p : Predicate) : Prop := ∀ c ∈ p.comparisons, c.Plain

abbrev PlainList (ps : List Predicate) : Prop := ∀ c ∈ comparisonsOf ps, c.Plain

theorem alphanum_word {c : Char} (h : c.isAlphanum = true) : isWordChar c = true := by
  by_cases blank : c = ' '
  · subst blank
    contradiction
  · by_cases bracket : c = ')'
    · subst bracket
      contradiction
    · simp [isWordChar, blank, bracket]

theorem compare_chars (field : String) (relation : Relation) (operand : Operand) :
    (compare field relation operand).render.toList =
      field.toList ++ ' ' :: (relation.symbol.toList ++ ' ' :: operand.display.toList) := by
  simp [render]

theorem group_chars (kind : Connective) (first : Predicate) (rest : List Predicate) :
    (group kind first rest).render.toList =
      '(' :: (first.render.toList ++ ((renderRest kind.joint rest).toList ++ [')'])) := by
  simp [render_group]

/-- A comparison begins with a character of its field, so with neither a bracket nor a star. -/
theorem compare_ne {field : String} {relation : Relation} {operand : Operand}
    (plain : (compare field relation operand).Plain) {c : Char} (other : c.isAlphanum = false)
    (r s : List Char) : (compare field relation operand).render.toList ++ r ≠ c :: s := by
  obtain ⟨nonempty, alphanum⟩ := (plain _ List.mem_cons_self).field
  cases chars : field.toList with
  | nil => exact absurd (String.toList_eq_nil_iff.1 chars) nonempty
  | cons d rest =>
    have first : d.isAlphanum = true := alphanum d (by simp [chars])
    intro same
    rw [compare_chars, chars, List.cons_append, List.cons_append] at same
    rw [(List.cons.inj same).1, other] at first
    contradiction

theorem stops_rest (kind : Connective) (rest : List Predicate) (r : List Char) :
    Stops ((renderRest kind.joint rest).toList ++ ')' :: r) := by
  cases rest with
  | nil => exact .cons rfl
  | cons p ps => cases kind <;> simpa [renderRest, Connective.joint] using Stops.cons rfl

/-- Whatever follows, another predicate with this text is the same in canonical form. -/
def Unique (p : Predicate) : Prop := ∀ {q : Predicate} {r s : List Char}, p.Plain → q.Plain →
  Stops r → Stops s → p.render.toList ++ r = q.render.toList ++ s →
    p.canonical = q.canonical ∧ r = s

/-- The same of the members after the first, with the bracket that closes their group. Unless
there are none, their joint shows the kind of the group. -/
def UniqueRest (ps : List Predicate) : Prop := ∀ {kind kind' : Connective} {qs : List Predicate}
  {r s : List Char}, PlainList ps → PlainList qs →
    (renderRest kind.joint ps).toList ++ ')' :: r =
      (renderRest kind'.joint qs).toList ++ ')' :: s →
    canonicalList ps = canonicalList qs ∧ canonicalKind kind ps = canonicalKind kind' qs ∧ r = s

theorem unique_everything : Unique everything := by
  intro q r s _ plain _ _ same
  rcases eq_group q with rfl | ⟨field, relation, operand, rfl⟩ | ⟨kind, first, rest, rfl⟩
  · exact ⟨rfl, List.append_cancel_left same⟩
  · exact absurd same.symm (compare_ne plain rfl s r)
  · rw [group_chars] at same
    exact absurd (List.cons.inj same).1 (by decide)

theorem unique_compare (field : String) (relation : Relation) (operand : Operand) :
    Unique (compare field relation operand) := by
  intro q r s plainP plainQ stopR stopS same
  rcases eq_group q with rfl | ⟨field', relation', operand', rfl⟩ | ⟨kind, first, rest', rfl⟩
  · exact absurd same (compare_ne plainP rfl r s)
  · have left := plainP _ List.mem_cons_self
    have right := plainQ _ List.mem_cons_self
    rw [compare_chars, compare_chars] at same
    simp only [List.append_assoc, List.cons_append] at same
    obtain ⟨fields, same⟩ := word_unique (fun c hc => alphanum_word (left.field.2 c hc))
      (fun c hc => alphanum_word (right.field.2 c hc)) (.cons rfl) (.cons rfl) same
    obtain ⟨symbols, same⟩ := word_unique relation.symbol_word relation'.symbol_word
      (.cons rfl) (.cons rfl) (List.cons.inj same).2
    obtain ⟨displays, same⟩ := word_unique (Operand.display_word left.operand)
      (Operand.display_word right.operand) stopR stopS (List.cons.inj same).2
    have fields : field = field' := String.toList_inj.1 fields
    have relations := Relation.symbol_injective (String.toList_inj.1 symbols)
    have operands : operand.canonical = operand'.canonical :=
      Operand.canonical_eq_of_display left.operand right.operand (String.toList_inj.1 displays)
    exact ⟨by rw [canonical, canonical, fields, relations, operands], same⟩
  · rw [group_chars] at same
    exact absurd same (compare_ne plainP rfl r _)

theorem unique_group (kind : Connective) {first : Predicate} {rest : List Predicate}
    (uniqueFirst : Unique first) (uniqueRest : UniqueRest rest) :
    Unique (group kind first rest) := by
  intro q r s plainP plainQ stopR stopS same
  rw [group_chars] at same
  rcases eq_group q with rfl | ⟨field, relation, operand, rfl⟩ | ⟨kind', first', rest', rfl⟩
  · exact absurd (List.cons.inj same).1 (by decide)
  · exact absurd same.symm (compare_ne plainQ rfl s _)
  · rw [group_chars] at same
    simp only [List.cons_append, List.append_assoc, List.nil_append, List.cons.injEq,
      true_and] at same
    rw [Plain, comparisons_group, List.forall_mem_append] at plainP plainQ
    obtain ⟨firsts, same⟩ := uniqueFirst plainP.1 plainQ.1 (stops_rest kind rest r)
      (stops_rest kind' rest' s) same
    obtain ⟨rests, kinds, same⟩ := uniqueRest plainP.2 plainQ.2 same
    exact ⟨by rw [canonical_group, canonical_group, firsts, rests, kinds], same⟩

theorem uniqueRest_nil : UniqueRest [] := by
  intro kind kind' qs r s _ _ same
  cases qs with
  | nil => exact ⟨rfl, rfl, (List.cons.inj same).2⟩
  | cons q qs => cases kind' <;> simp [renderRest, Connective.joint] at same

theorem uniqueRest_cons {p : Predicate} {ps : List Predicate} (uniqueFirst : Unique p)
    (uniqueRest : UniqueRest ps) : UniqueRest (p :: ps) := by
  intro kind kind' qs r s plainP plainQ same
  cases qs with
  | nil => cases kind <;> simp [renderRest, Connective.joint] at same
  | cons q qs =>
    obtain rfl : kind = kind' := by
      cases kind <;> cases kind' <;> simp [renderRest, Connective.joint] at same ⊢
    simp only [renderRest, String.toList_append, List.append_assoc] at same
    have same := List.append_cancel_left same
    rw [PlainList, comparisonsOf, List.forall_mem_append] at plainP plainQ
    obtain ⟨firsts, same⟩ := uniqueFirst plainP.1 plainQ.1 (stops_rest kind ps r)
      (stops_rest kind qs s) same
    obtain ⟨rests, -, same⟩ := uniqueRest plainP.2 plainQ.2 same
    exact ⟨by rw [canonicalList, canonicalList, firsts, rests], rfl, same⟩

mutual

theorem unique : ∀ p : Predicate, Unique p
  | everything => unique_everything
  | compare field relation operand => unique_compare field relation operand
  | all first rest => unique_group .all (unique first) (uniqueRest rest)
  | any first rest => unique_group .any (unique first) (uniqueRest rest)

theorem uniqueRest : ∀ ps : List Predicate, UniqueRest ps
  | [] => uniqueRest_nil
  | p :: ps => uniqueRest_cons (unique p) (uniqueRest ps)

end

theorem render_eq_iff {p q : Predicate} (plainP : p.Plain) (plainQ : q.Plain) :
    p.render = q.render ↔ p.canonical = q.canonical := by
  constructor
  · intro same
    have chars : p.render.toList ++ [] = q.render.toList ++ [] := by rw [same]
    exact (unique p plainP plainQ .nil .nil chars).1
  · intro same
    rw [← render_canonical p, same, render_canonical q]

/-- The text of a predicate fixes its tree and what it says of every event. -/
theorem text_fixes_meaning {p q : Predicate} (plainP : p.Plain) (plainQ : q.Plain)
    (shortP : p.Short) (shortQ : q.Short) (same : p.render = q.render) :
    p.canonical = q.canonical ∧ ∀ event : Event, p.holds event = q.holds event := by
  have canonicals := (render_eq_iff plainP plainQ).1 same
  refine ⟨canonicals, fun event => ?_⟩
  rw [← holds_canonical event p shortP, canonicals, holds_canonical event q shortQ]

/-- A single number, once as a number in a group of one kind, once as a text in one of the other. -/
theorem text_fixes_meaning_single :
    (any (compare "EventID" .eq (.int 42)) []).render =
        (all (compare "EventID" .eq (.text "42")) []).render ∧
      (any (compare "EventID" .eq (.int 42)) []).canonical =
        (all (compare "EventID" .eq (.text "42")) []).canonical ∧
      (any (compare "EventID" .eq (.int 42)) []).holds [("EventID", .str "042")] =
        (all (compare "EventID" .eq (.text "42")) []).holds [("EventID", .str "042")] := by
  have same : (any (compare "EventID" .eq (.int 42)) []).render =
      (all (compare "EventID" .eq (.text "42")) []).render := rfl
  have plainP : (any (compare "EventID" .eq (.int 42)) []).Plain := by
    intro c mem
    obtain rfl := List.mem_singleton.1 mem
    exact ⟨by decide, trivial⟩
  have plainQ : (all (compare "EventID" .eq (.text "42")) []).Plain := by
    intro c mem
    obtain rfl := List.mem_singleton.1 mem
    exact ⟨by decide, by decide, by decide⟩
  have shortP : (any (compare "EventID" .eq (.int 42)) []).Short := by
    intro c mem
    obtain rfl := List.mem_singleton.1 mem
    show (toString (42 : Int).natAbs).length ≤ Text.maxDigits
    decide
  have shortQ : (all (compare "EventID" .eq (.text "42")) []).Short := by
    intro c mem
    obtain rfl := List.mem_singleton.1 mem
    show "42".length ≤ Text.maxDigits
    decide
  have fixed := text_fixes_meaning plainP plainQ shortP shortQ same
  exact ⟨same, fixed.1, fixed.2 _⟩

end Predicate
end EventFilter
