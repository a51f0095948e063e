import EventFilter.Decimal.Format
import EventFilter.Predicate.Printer
import EventFilter.Proofs.PrintedPredicate
import EventFilter.Proofs.UniqueReading
import EventFilter.Text.Styled

/-! Lines as they come out. A terminal leaves out or moves only what is a control character, so a
text without any is printed as it is, and any other begins with the characters in front of its
first one. The text of a double has none, nor has that of a predicate. -/
namespace EventFilter

namespace Text

/-- Nothing in it ends a line, moves the cursor or goes to a tab stop. -/
def IsLine (text : String) : Prop := ∀ c ∈ text.toList, 0x20 ≤ c.toNat

instance (text : String) : Decidable (IsLine text) :=
  decidable_of_iff (text.toList.all (0x20 ≤ ·.toNat) = true) (by simp [IsLine])

theorem isLine_append {a b : String} : IsLine (a ++ b) ↔ IsLine a ∧ IsLine b := by
  rw [IsLine, String.toList_append, List.forall_mem_append]
  rfl

theorem isLine_ofList {cs : List Char} : IsLine (String.ofList cs) ↔ ∀ c ∈ cs, 0x20 ≤ c.toNat := by
  rw [IsLine, String.toList_ofList]

theorem IsLine.newline {text : String} (line : IsLine text) : '\n' ∉ text.toList :=
  fun mem => absurd (line '\n' mem) (by decide)

theorem Digital.isLine {digits : String} (all : Digital digits) : IsLine digits := by
  intro c mem
  have within := isAsciiDigit_iff.1 (all c mem)
  omega

theorem isLine_int (n : Int) : IsLine (toString n) := by
  cases n with
  | ofNat k => exact (isNumeral_toString k).2.isLine
  | negSucc k => exact isLine_append.2 ⟨by decide, (isNumeral_toString (k + 1)).2.isLine⟩

/-- Nothing is left out in front of the first separator. -/
theorem splitAt_front {separates : Char → Bool} {cs first : List Char} {rest : List (List Char)}
    (cut : splitAt separates cs = first :: rest) : ∃ more, cs = first ++ more := by
  induction cs generalizing first rest with
  | nil => exact ⟨[], by cases cut; rfl⟩
  | cons c cs ih =>
    obtain ⟨part, parts, later⟩ := List.exists_cons_of_ne_nil (splitAt_ne_nil separates cs)
    rw [splitAt, later] at cut
    split at cut
    · exact ⟨c :: cs, by cases cut; rfl⟩
    · obtain ⟨more, rfl⟩ := ih later
      exact ⟨more, by cases cut; rfl⟩

namespace Styled

theorem concat_fillParts (part : Styled) (parts : List Styled) :
    ∃ more, (concat (fillParts 0 (part :: parts))).text = part.text ++ more := by
  cases parts with
  | nil => exact ⟨[], rfl⟩
  | cons next parts => exact ⟨_, List.append_assoc _ _ _⟩

/-- The columns of tabs are added behind what is in front of the first one. -/
theorem expandTabs_cons {cs first : List Char} {rest : List (List Char)}
    (cut : splitAt (· = '\t') cs = first :: rest) :
    ∃ more, (plain cs).expandTabs.text = first ++ more := by
  obtain ⟨more, rfl⟩ := splitAt_front cut
  cases rest with
  | nil =>
    refine ⟨more, ?_⟩
    simp [expandTabs, plain, cut, tabsAsBlanks, divideInto, fillParts, concat]
  | cons next rest =>
    obtain ⟨last, parts, tabs⟩ : ∃ last parts, tabsAsBlanks (next :: rest) = last :: parts := by
      cases rest <;> exact ⟨_, _, rfl⟩
    obtain ⟨columns, filled⟩ := concat_fillParts ⟨first ++ [' '], []⟩
      (overPieces [] 0 (first ++ [' ']).length (last :: parts))
    refine ⟨' ' :: columns, ?_⟩
    simp only [overPieces, List.filterMap_nil] at filled
    rw [expandTabs]
    simp only [plain, cut, tabsAsBlanks, tabs, divideInto, overPieces, List.filterMap_nil]
    simpa using filled

end Styled

section

variable {a : List Char} (line : ∀ c ∈ a, 0x20 ≤ c.toNat)

include line

theorem withoutControls_append (b : List Char) :
    withoutControls (a ++ b) = a ++ withoutControls b := by
  have kept : ∀ c ∈ a, (!isCursorControl c) = true := by
    intro c mem
    have shown := line c mem
    simp only [isCursorControl, Bool.not_eq_true', Bool.or_eq_false_iff, decide_eq_false_iff_not]
    omega
  rw [withoutControls, List.filter_append, List.filter_eq_self.2 kept, withoutControls]

/-- The characters in front lie in the first part. -/
theorem splitAt_append (separator : Char) (control : separator.toNat < 0x20)
    {b first : List Char} {rest : List (List Char)}
    (cut : splitAt (· = separator) b = first :: rest) :
    splitAt (· = separator) (a ++ b) = (a ++ first) :: rest := by
  induction a with
  | nil => exact cut
  | cons c a ih =>
    obtain ⟨shown, line⟩ := List.forall_mem_cons.1 line
    have other : decide (c = separator) = false := by
      rw [decide_eq_false_iff_not]
      rintro rfl
      omega
    simp only [List.cons_append, splitAt, other, ih line]
    rfl

theorem expandTabs_append (b : List Char) :
    ∃ more, (Styled.plain (a ++ b)).expandTabs.text = a ++ more := by
  obtain ⟨first, rest, cut⟩ := List.exists_cons_of_ne_nil (splitAt_ne_nil (· = '\t') b)
  obtain ⟨more, expanded⟩ := Styled.expandTabs_cons (splitAt_append line '\t' (by decide) cut)
  exact ⟨first ++ more, by rw [expanded, List.append_assoc]⟩

theorem expandTabs_self : (Styled.plain a).expandTabs.text = a := by
  have uncut := splitAt_append line '\t' (by decide) (b := []) rfl
  rw [List.append_nil] at uncut
  simp [Styled.expandTabs, Styled.plain, uncut, Styled.tabsAsBlanks, Styled.divideInto,
    Styled.fillParts, Styled.concat]

end

variable {a : String} (line : IsLine a)

include line

theorem printLine_self : printLine a = a ++ "\n" := by
  have uncut := splitAt_append line '\n' (by decide) (b := []) rfl
  have kept := withoutControls_append line []
  rw [List.append_nil] at uncut kept
  rw [printLine, kept, withoutControls, List.filter_nil, List.append_nil, lines, uncut]
  simp only [List.map_cons, List.map_nil, expandTabs_self line, joinLines, String.ofList_toList,
    String.append_empty]

/-- What is printed begins with the characters that are no control characters. -/
theorem printLine_append (b : String) : ∃ more, printLine (a ++ b) = a ++ more := by
  obtain ⟨first, rest, cut⟩ :=
    List.exists_cons_of_ne_nil (splitAt_ne_nil (· = '\n') (withoutControls b.toList))
  obtain ⟨more, expanded⟩ := expandTabs_append line first
  have split := splitAt_append line '\n' (by decide) cut
  refine ⟨String.ofList more ++ ("\n" ++ joinLines (rest.map fun line =>
    (Styled.plain line).expandTabs.text)), ?_⟩
  rw [printLine, String.toList_append, withoutControls_append line, lines, split, List.map_cons,
    joinLines, expanded, String.ofList_append, String.ofList_toList, String.append_assoc,
    String.append_assoc]

end Text

open Text

namespace Decimal

theorem isLine_zeros (n : Nat) : IsLine ("".pushn '0' n) := by
  induction n with
  | zero => decide
  | succ n ih =>
    have next : "".pushn '0' (n + 1) = "".pushn '0' n ++ "0" := rfl
    exact next ▸ isLine_append.2 ⟨ih, by decide⟩

theorem isLine_digits {n : Nat} {cs : List Char} (part : cs.Sublist (toString n).toList) :
    IsLine (String.ofList cs) :=
  isLine_ofList.2 fun c mem => (isNumeral_toString n).2.isLine c (part.subset mem)

theorem isLine_padded (width n : Nat) : IsLine (padded width n) :=
  isLine_append.2 ⟨isLine_zeros _, (isNumeral_toString n).2.isLine⟩

/-- Digits, with zeros, a point, signs and the letter of an exponent. -/
theorem isLine_finite (format : Format) (mantissa : Nat) (exponent : Int) :
    IsLine (format.finite mantissa exponent) := by
  unfold Format.finite
  generalize shortest mantissa exponent = factored
  obtain ⟨factor, scale⟩ := factored
  have whole : IsLine (String.ofList (toString factor).toList) := isLine_digits (.refl _)
  have front (n : Nat) : IsLine (String.ofList ((toString factor).toList.take n)) :=
    isLine_digits (List.take_sublist n _)
  have rest (n : Nat) : IsLine (String.ofList ((toString factor).toList.drop n)) :=
    isLine_digits (List.drop_sublist n _)
  have point : IsLine (if (toString factor).toList.length > 1 then "." else "") := by
    split <;> decide
  have sign (power : Int) : IsLine (if power < 0 then "-" else "+") := by
    split <;> decide
  dsimp only
  split
  · decide
  split
  · split
    · exact isLine_append.2 ⟨isLine_append.2 ⟨by decide, isLine_zeros _⟩, whole⟩
    split
    · exact isLine_append.2 ⟨isLine_append.2 ⟨whole, isLine_zeros _⟩, by decide⟩
    · exact isLine_append.2 ⟨isLine_append.2 ⟨front _, by decide⟩, rest _⟩
  · simp only [isLine_append]
    exact ⟨⟨⟨⟨⟨front 1, point⟩, rest 1⟩, by decide⟩, sign _⟩, isLine_padded _ _⟩

theorem isLine_write {format : Format} (infinity : IsLine format.infinity)
    (undefined : IsLine format.undefined) (x : Float) : IsLine (format.write x) := by
  have sign (negative : Bool) : IsLine (if negative then "-" else "") := by
    cases negative <;> decide
  unfold Format.write
  split
  · exact isLine_append.2 ⟨sign _, isLine_finite format _ _⟩
  · exact isLine_append.2 ⟨sign _, infinity⟩
  · exact undefined

end Decimal

theorem Operand.isLine_display {operand : Operand} (plain : operand.Plain) :
    IsLine operand.display := by
  cases operand with
  | int n => exact isLine_int n
  | text numeral => exact plain.2.isLine
  | flag b => cases b <;> decide

theorem IsName.isLine {field : String} (name : IsName field) : IsLine field := by
  have controls : ∀ n < 0x20, (Char.ofNat n).isAlphanum = false := by decide
  intro c mem
  have letter := name.2 c mem
  rw [← Nat.not_lt]
  intro control
  have other := controls c.toNat control
  rw [Char.ofNat_toNat, letter] at other
  contradiction

namespace Predicate

theorem isLine_render {p : Predicate} (plain : p.Plain) : IsLine p.render :=
  written_render (by decide) p fun c mem =>
    ⟨(plain c mem).field.isLine, Operand.isLine_display (plain c mem).operand⟩

theorem isLine_system {p : Predicate} (plain : p.Plain) : IsLine p.system := by
  simp only [system, isLine_append]
  exact ⟨⟨by decide, isLine_render plain⟩, by decide⟩

end Predicate
end EventFilter
