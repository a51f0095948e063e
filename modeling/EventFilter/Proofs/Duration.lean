import EventFilter.Cli.Clock
import EventFilter.Json.Display
import EventFilter.Proofs.Numeral

/-! How long a time can be that a clock of doubles tells: it may have no end, and otherwise it is
written in few digits. -/
namespace EventFilter

namespace Decimal

/-- A double has 53 binary digits, and the last of them stands for at most the 971st power. -/
theorem finite_ofFloat {x : Float} {negative : Bool} {mantissa : Nat} {exponent : Int}
    (parts : Parts.ofFloat x = .finite negative mantissa exponent) :
    mantissa < pow2 53 ∧ exponent ≤ 971 := by
  have fraction : x.toBits.toNat % pow2 52 < pow2 52 := Nat.mod_lt _ (by decide)
  have power : x.toBits.toNat / pow2 52 % pow2 11 < pow2 11 := Nat.mod_lt _ (by decide)
  have digits : pow2 53 = pow2 52 + pow2 52 := by decide
  have powers : pow2 11 = 2048 := by decide
  simp only [Parts.ofFloat] at parts
  split at parts
  · split at parts <;> contradiction
  · split at parts <;> (cases parts; omega)

theorem truncate_le (negative : Bool) (mantissa : Nat) (exponent : Int) :
    (truncate negative mantissa exponent).toNat ≤ mantissa * pow2 exponent.toNat := by
  have whole := Nat.div_le_self (mantissa * pow2 exponent.toNat) (pow2 (-exponent).toNat)
  rw [truncate]
  generalize mantissa * pow2 exponent.toNat / pow2 (-exponent).toNat = magnitude at whole ⊢
  split <;> omega

theorem magnitude_lt {mantissa : Nat} {exponent : Int} (digits : mantissa < pow2 53)
    (power : exponent ≤ 971) : mantissa * pow2 exponent.toNat < pow10 Text.maxDigits := by
  have scale : pow2 exponent.toNat ≤ pow2 971 := pow2_mono (Int.toNat_le.2 power)
  have short : 53 + 971 ≤ Text.maxDigits := by decide
  calc mantissa * pow2 exponent.toNat
      < pow2 53 * pow2 971 := Nat.mul_lt_mul_of_lt_of_le digits scale (pow2_pos 971)
    _ = pow2 (53 + 971) := pow2_add 53 971
    _ ≤ pow2 Text.maxDigits := pow2_mono short
    _ ≤ pow10 Text.maxDigits := pow2_le_pow10 Text.maxDigits

end Decimal

namespace Cli

theorem isWritable_int_iff {n : Nat} :
    (Json.int n).isWritable = true ↔ n < Decimal.pow10 Text.maxDigits := by
  rw [Json.isWritable, Int.natAbs_natCast, decide_eq_true_iff]
  exact Text.length_toString_le_iff (by decide)

theorem elapsedMs_real (start stop : Float) : elapsedMs (.real start) (.real stop) =
    match Decimal.Parts.ofFloat ((stop - start) * 1000) with
    | .finite negative mantissa exponent =>
      .ok (Decimal.truncate negative mantissa exponent).toNat
    | .infinite false => .error .endless
    | .infinite true | .undefined => .ok 0 := rfl

/-- A time that is told by doubles is written in few digits. -/
theorem writable_elapsedMs {start stop : Float} {durationMs : Nat}
    (timed : elapsedMs (.real start) (.real stop) = .ok durationMs) :
    (Json.int durationMs).isWritable = true := by
  have bound : durationMs < Decimal.pow10 Text.maxDigits := by
    rw [elapsedMs_real] at timed
    split at timed
    · next parts =>
      obtain ⟨digits, power⟩ := Decimal.finite_ofFloat parts
      cases timed
      exact Nat.lt_of_le_of_lt (Decimal.truncate_le _ _ _) (Decimal.magnitude_lt digits power)
    · contradiction
    · cases timed
      exact Decimal.pow10_pos _
    · cases timed
      exact Decimal.pow10_pos _
  exact isWritable_int_iff.2 bound

end Cli
end EventFilter
