import EventFilter.Decimal.Shortest
import EventFilter.Filter.Scanner

/-! Numerals. Filters and printed integers are written in ASCII digits, and both are read back with
the same value: by the bounds of a range, and by a comparison. -/
namespace EventFilter

namespace Text

def Digital (digits : String) : Prop := ∀ c ∈ digits.toList, isAsciiDigit c = true

/-- A number as it is typed; leading zeros count as digits. -/
def IsNumeral (digits : String) : Prop := digits ≠ "" ∧ Digital digits

instance (digits : String) : Decidable (Digital digits) :=
  decidable_of_iff (digits.toList.all isAsciiDigit = true) List.all_eq_true

instance (digits : String) : Decidable (IsNumeral digits) :=
  inferInstanceAs (Decidable (_ ∧ _))

def value (digits : String) : Nat := Nat.ofDigitChars 10 digits.toList 0

theorem Digital.empty : Digital "" := by simp [Digital]

theorem Digital.push {digits : String} {c : Char} (all : Digital digits)
    (digit : isAsciiDigit c = true) : Digital (digits.push c) := by
  intro d hd
  rw [String.toList_push, List.mem_append, List.mem_singleton] at hd
  rcases hd with hd | rfl
  · exact all d hd
  · exact digit

theorem Digital.singleton {c : Char} (digit : isAsciiDigit c = true) :
    Digital (String.singleton c) := by
  simpa [Digital] using digit

theorem isNumeral_push {digits : String} {c : Char} (all : Digital digits)
    (digit : isAsciiDigit c = true) : IsNumeral (digits.push c) :=
  ⟨String.push_ne_empty, all.push digit⟩

theorem isNumeral_singleton {c : Char} (digit : isAsciiDigit c = true) :
    IsNumeral (String.singleton c) :=
  ⟨String.singleton_ne_empty, .singleton digit⟩

theorem ofDigits_asciiDigitValue (cs : List Char) :
    ofDigits (cs.map asciiDigitValue) = Nat.ofDigitChars 10 cs 0 := by
  simp only [ofDigits, List.foldl_map, Nat.ofDigitChars_eq_foldl]
  rfl

theorem isAsciiDigit_ne {c d : Char} (digit : isAsciiDigit c = true)
    (other : isAsciiDigit d = false) : c ≠ d := by
  rintro rfl
  rw [digit] at other
  contradiction

theorem digitValue?_ascii {c : Char} (digit : isAsciiDigit c = true) :
    digitValue? c = some (asciiDigitValue c) := by
  obtain ⟨low, high⟩ := isAsciiDigit_iff.1 digit
  have first : (decide (0x30 ≤ c.toNat) && decide (c.toNat < 0x30 + 10)) = true := by
    simp only [Bool.and_eq_true, decide_eq_true_eq]
    omega
  have zeros : digitZeros = 0x30 :: digitZeros.tail := rfl
  rw [digitValue?, zeros]
  simp only [List.find?_cons, first, Option.map_some]
  rfl

theorem numeralBlank_digit {c : Char} (digit : isAsciiDigit c = true) :
    numeralBlank.contains c = false := by
  have within := isAsciiDigit_iff.1 digit
  rw [← Bool.not_eq_true, CharSet.contains_iff]
  rintro ⟨range, mem, low, high⟩
  simp only [numeralBlank, List.mem_cons, List.not_mem_nil, or_false] at mem
  rcases mem with rfl | rfl | rfl | rfl | rfl | rfl | rfl | rfl | rfl | rfl <;>
    (simp only at low high; omega)

theorem isNumeral_toString (n : Nat) : IsNumeral (toString n) := by
  constructor
  · simp
  · intro c hc
    rw [Nat.toString_eq_repr, Nat.toList_repr] at hc
    have digit := Nat.isDigit_of_mem_toDigits (by decide) (by decide) hc
    exact isAsciiDigit_iff.2 (Char.isDigit_iff_toNat.1 digit)

@[simp] theorem value_toString (n : Nat) : value (toString n) = n := by
  simp [value]

theorem ofDigitChars_lt {cs : List Char} (all : ∀ c ∈ cs, isAsciiDigit c = true) (n : Nat) :
    Nat.ofDigitChars 10 cs n < (n + 1) * Decimal.pow10 cs.length := by
  induction cs generalizing n with
  | nil =>
    rw [Nat.ofDigitChars_nil, List.length_nil, Decimal.pow10_zero, Nat.mul_one]
    exact Nat.lt_succ_self n
  | cons c cs ih =>
    obtain ⟨digit, rest⟩ := List.forall_mem_cons.1 all
    have below : c.toNat - '0'.toNat < 10 := by
      have within := isAsciiDigit_iff.1 digit
      have zero : '0'.toNat = 0x30 := rfl
      omega
    have next : 10 * n + (c.toNat - '0'.toNat) + 1 ≤ (n + 1) * 10 := by omega
    rw [Nat.ofDigitChars_cons, List.length_cons, Decimal.pow10_succ, ← Nat.mul_assoc]
    exact Nat.lt_of_lt_of_le (ih rest _) (Nat.mul_le_mul_right _ next)

theorem value_lt {digits : String} (all : Digital digits) :
    value digits < Decimal.pow10 digits.length := by
  have bound := ofDigitChars_lt all 0
  rwa [Nat.zero_add, Nat.one_mul, String.length_toList] at bound

theorem length_toString_le_iff {n most : Nat} (pos : 0 < most) :
    (toString n).length ≤ most ↔ n < Decimal.pow10 most := by
  rw [Nat.toString_eq_repr]
  exact Nat.length_repr_le_iff pos

/-- Leading zeros are lost when a value is written out, and no digits are added. -/
theorem length_value_le {digits : String} (numeral : IsNumeral digits) {most : Nat}
    (short : digits.length ≤ most) : (toString (value digits)).length ≤ most := by
  have some_digit : 0 < digits.length := by
    rw [Nat.pos_iff_ne_zero, ← String.length_toList, Ne, List.length_eq_zero_iff]
    simpa using numeral.1
  have no_more := (length_toString_le_iff some_digit).2 (value_lt numeral.2)
  exact Nat.le_trans no_more short

/-- A numeral of as many digits as one likes. -/
def ones (n : Nat) : String := String.ofList (List.replicate n '1')

@[simp] theorem length_ones (n : Nat) : (ones n).length = n := by simp [ones]

theorem maxDigits_lt_ones : maxDigits < (ones 4301).length := by
  rw [length_ones]
  decide

theorem isNumeral_ones (n : Nat) : IsNumeral (ones (n + 1)) := by
  constructor
  · intro empty
    have length := congrArg String.length empty
    rw [length_ones] at length
    contradiction
  · intro c mem
    rw [ones, String.toList_ofList] at mem
    rw [List.eq_of_mem_replicate mem]
    rfl

theorem dropWhile_eq_self {p : Char → Bool} {cs : List Char} (none : ∀ c ∈ cs, p c = false) :
    cs.dropWhile p = cs := by
  cases cs with
  | nil => rfl
  | cons c cs => simp [none c List.mem_cons_self]

theorem trimChars_eq_self {set : CharSet} {cs : List Char}
    (none : ∀ c ∈ cs, set.contains c = false) : trimChars set cs = cs := by
  have reversed : ∀ c ∈ cs.reverse, set.contains c = false := fun c hc =>
    none c (List.mem_reverse.1 hc)
  rw [trimChars, dropWhile_eq_self none, dropWhile_eq_self reversed, List.reverse_reverse]

end Text

open Text

theorem readBound_eq (digits : String) : readBound digits =
    if maxDigits < digits.length then .error (.oversizedBound digits.length)
    else .ok (value digits) := by
  rw [readBound, ofDigits_asciiDigitValue]
  rfl

namespace Numeral

theorem digits_ascii {cs : List Char} (all : ∀ c ∈ cs, isAsciiDigit c = true) (afterDigit : Bool) :
    digits afterDigit cs = some (cs.map asciiDigitValue, []) := by
  induction cs generalizing afterDigit with
  | nil => rfl
  | cons c cs ih =>
    have digit := all c List.mem_cons_self
    have rest := ih (fun d hd => all d (List.mem_cons_of_mem _ hd)) true
    simp only [digits, if_neg (isAsciiDigit_ne digit (d := '_') rfl), digitValue?_ascii digit, rest,
      Option.map_some, List.map_cons]

theorem unsigned_ascii (text : String) {cs : List Char} (some_digit : cs ≠ [])
    (all : ∀ c ∈ cs, isAsciiDigit c = true) : unsigned text cs =
      if maxDigits < cs.length then .error (.oversized cs.length)
      else .ok (Nat.ofDigitChars 10 cs 0) := by
  simp only [unsigned, digits_ascii all false, ofDigits?, List.length_map]
  split
  · rfl
  · rw [if_neg (by simpa using some_digit), ofDigits_asciiDigitValue]

/-- A numeral is read unless it is too long, whatever its value. -/
theorem read_eq_of_isNumeral {text : String} (h : IsNumeral text) : read text =
    if maxDigits < text.length then .error (.oversized text.length)
    else .ok (value text : Int) := by
  obtain ⟨nonempty, all⟩ := h
  have chars : text.toList ≠ [] := by simpa using nonempty
  have trimmed : trimChars numeralBlank text.toList = text.toList :=
    trimChars_eq_self fun c hc => numeralBlank_digit (all c hc)
  have unsigned := unsigned_ascii text chars all
  rw [String.length_toList] at unsigned
  rw [read, trimmed]
  split
  · exact absurd (all '-' (by simp_all)) (by decide)
  · exact absurd (all '+' (by simp_all)) (by decide)
  · rw [unsigned]
    split <;> rfl

theorem read_of_isNumeral {text : String} (h : IsNumeral text) (short : text.length ≤ maxDigits) :
    read text = .ok (value text : Int) := by
  rw [read_eq_of_isNumeral h, if_neg (Nat.not_lt.2 short)]

theorem read_minus {digits : String} (h : IsNumeral digits) (short : digits.length ≤ maxDigits) :
    read ("-" ++ digits) = .ok (-(value digits : Int)) := by
  obtain ⟨nonempty, all⟩ := h
  have chars : digits.toList ≠ [] := by simpa using nonempty
  have signed : ("-" ++ digits).toList = '-' :: digits.toList := String.toList_append
  have trimmed : trimChars numeralBlank ('-' :: digits.toList) = '-' :: digits.toList := by
    apply trimChars_eq_self
    intro c hc
    rcases List.mem_cons.1 hc with rfl | hc
    · rfl
    · exact numeralBlank_digit (all c hc)
  have unsigned := unsigned_ascii ("-" ++ digits) chars all
  rw [String.length_toList, if_neg (Nat.not_lt.2 short)] at unsigned
  rw [read, signed, trimmed]
  simp only [unsigned]
  rfl

/-- Printing an integer and reading it back changes nothing, as long as it has few enough digits to
be read at all. -/
theorem read_toString {n : Int} (short : (toString n.natAbs).length ≤ maxDigits) :
    read (toString n) = .ok n := by
  have numeral := isNumeral_toString n.natAbs
  rw [Int.toString_eq_repr, Int.repr_eq_if]
  split
  · have same : n.toNat = n.natAbs := by omega
    rw [same, ← Nat.toString_eq_repr, read_of_isNumeral numeral short, value_toString]
    congr 1
    omega
  · have same : (-n).toNat = n.natAbs := by omega
    rw [same, ← Nat.toString_eq_repr, read_minus numeral short, value_toString]
    congr 1
    omega

end Numeral
end EventFilter
