import EventFilter.Text.CharSet

/-! Trimming. A text is trimmed of every character of the `White_Space` class, and of the four
separators U+001C to U+001F, which bidirectional text treats as paragraph and segment ends.
Numerals are trimmed of less: the four separators stay and spoil them. -/
namespace EventFilter.Text

def blank : CharSet := ⟨[(0x9, 0xd), (0x1c, 0x20), (0x85, 0x85), (0xa0, 0xa0), (0x1680, 0x1680),
  (0x2000, 0x200a), (0x2028, 0x2029), (0x202f, 0x202f), (0x205f, 0x205f), (0x3000, 0x3000)]⟩

def numeralBlank : CharSet := ⟨[(0x9, 0xd), (0x20, 0x20), (0x85, 0x85), (0xa0, 0xa0),
  (0x1680, 0x1680), (0x2000, 0x200a), (0x2028, 0x2029), (0x202f, 0x202f), (0x205f, 0x205f),
  (0x3000, 0x3000)]⟩

def trimChars (set : CharSet) (cs : List Char) : List Char :=
  ((cs.dropWhile set.contains).reverse.dropWhile set.contains).reverse

def trim (text : String) : String := String.ofList (trimChars blank text.toList)

private theorem dropWhile_eq_nil {p : Char → Bool} {cs : List Char} :
    cs.dropWhile p = [] ↔ ∀ c ∈ cs, p c = true := by
  induction cs with
  | nil => simp
  | cons c cs ih => by_cases h : p c = true <;> simp [h, ih]

/-- Nothing is left exactly when there was nothing but what is trimmed. -/
theorem trimChars_eq_nil {set : CharSet} {cs : List Char} :
    trimChars set cs = [] ↔ ∀ c ∈ cs, set.contains c = true := by
  simp only [trimChars, List.reverse_eq_nil_iff, dropWhile_eq_nil, List.mem_reverse]
  constructor
  · intro h c hc
    rw [← List.takeWhile_append_dropWhile (p := set.contains) (l := cs)] at hc
    rcases List.mem_append.1 hc with hc | hc
    · exact List.all_eq_true.1 List.all_takeWhile c hc
    · exact h c hc
  · intro h c hc
    exact h c ((List.dropWhile_sublist _).subset hc)

end EventFilter.Text
