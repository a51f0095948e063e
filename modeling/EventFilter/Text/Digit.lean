/-! Decimal digits. Filters are written in ASCII digits alone; a numeral elsewhere may use the
digits of any script (general category `Nd`), which come in runs of ten from zero to nine. -/
namespace EventFilter.Text

def isAsciiDigit (c : Char) : Bool := '0' ≤ c && c ≤ '9'

/-- The code points of the zeros of all scripts. -/
def digitZeros : List Nat := [
    0x30, 0x660, 0x6f0, 0x7c0, 0x966, 0x9e6, 0xa66, 0xae6, 0xb66, 0xbe6, 0xc66, 0xce6, 0xd66, 0xde6,
    0xe50, 0xed0, 0xf20, 0x1040, 0x1090, 0x17e0, 0x1810, 0x1946, 0x19d0, 0x1a80, 0x1a90, 0x1b50,
    0x1bb0, 0x1c40, 0x1c50, 0xa620, 0xa8d0, 0xa900, 0xa9d0, 0xa9f0, 0xaa50, 0xabf0, 0xff10, 0x104a0,
    0x10d30, 0x11066, 0x110f0, 0x11136, 0x111d0, 0x112f0, 0x11450, 0x114d0, 0x11650, 0x116c0,
    0x11730, 0x118e0, 0x11950, 0x11c50, 0x11d50, 0x11da0, 0x16a60, 0x16ac0, 0x16b50, 0x1d7ce,
    0x1d7d8, 0x1d7e2, 0x1d7ec, 0x1d7f6, 0x1e140, 0x1e2f0, 0x1e950, 0x1fbf0]

theorem isAsciiDigit_iff {c : Char} : isAsciiDigit c = true ↔ 48 ≤ c.toNat ∧ c.toNat ≤ 57 := by
  simp only [isAsciiDigit, Bool.and_eq_true, decide_eq_true_eq, Char.le_def, UInt32.le_iff_toNat_le]
  exact Iff.rfl

def digitValue? (c : Char) : Option Nat :=
  (digitZeros.find? fun start => start ≤ c.toNat && c.toNat < start + 10).map (c.toNat - ·)

theorem digitValue?_lt_ten {c : Char} {d : Nat} (h : digitValue? c = some d) : d < 10 := by
  obtain ⟨start, found, rfl⟩ := Option.map_eq_some_iff.1 h
  have within := List.find?_some found
  simp only [Bool.and_eq_true, decide_eq_true_eq] at within
  omega

/-- The number that digit values denote, the most significant first. -/
def ofDigits (digits : List Nat) : Nat := digits.foldl (fun n d => 10 * n + d) 0

theorem ofDigits_append_singleton (digits : List Nat) (d : Nat) :
    ofDigits (digits ++ [d]) = 10 * ofDigits digits + d := by
  simp [ofDigits]

/-- A longer numeral is refused wherever its value is needed, because reading one takes time
quadratic in its length. -/
def maxDigits : Nat := 4300

def asciiDigitValue (c : Char) : Nat := c.toNat - '0'.toNat

theorem asciiDigitValue_lt_ten {c : Char} (h : isAsciiDigit c = true) :
    asciiDigitValue c < 10 := by
  have within := isAsciiDigit_iff.1 h
  have zero : '0'.toNat = 48 := rfl
  unfold asciiDigitValue
  omega

/-- Hexadecimal digits are written with small or capital letters. -/
def hexValue? (c : Char) : Option Nat :=
  if isAsciiDigit c then some (asciiDigitValue c)
  else if 'a' ≤ c && c ≤ 'f' then some (c.toNat - 'a'.toNat + 10)
  else if 'A' ≤ c && c ≤ 'F' then some (c.toNat - 'A'.toNat + 10)
  else none

end EventFilter.Text
