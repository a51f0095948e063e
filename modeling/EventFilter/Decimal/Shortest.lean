/-! Shortest decimals of doubles. A finite double is an integer times a power of two, and every
real in an interval around it reads back as that double. On each decimal grid the two neighbours
of the value decide whether the grid meets the interval, so the coarsest grid that does so gives
the fewest digits. All of it is exact arithmetic on natural numbers. -/
namespace EventFilter.Decimal

inductive Parts where
  | finite (negative : Bool) (mantissa : Nat) (exponent : Int)
  | infinite (negative : Bool)
  | undefined
  deriving DecidableEq, Repr

def pow2 (n : Nat) : Nat := Nat.pow 2 n

def pow10 (n : Nat) : Nat := Nat.pow 10 n

theorem pow10_zero : pow10 0 = 1 := rfl

theorem pow10_succ (n : Nat) : pow10 (n + 1) = 10 * pow10 n := Nat.mul_comm _ _

theorem pow10_pos (n : Nat) : 0 < pow10 n := Nat.pow_pos (by decide)

theorem pow2_add (m n : Nat) : pow2 m * pow2 n = pow2 (m + n) := (Nat.pow_add 2 m n).symm

theorem pow2_mono {m n : Nat} (le : m ≤ n) : pow2 m ≤ pow2 n := Nat.pow_le_pow_right Nat.two_pos le

theorem pow2_pos (n : Nat) : 0 < pow2 n := Nat.two_pow_pos n

/-- A power of two has no more decimal digits than binary ones. -/
theorem pow2_le_pow10 (n : Nat) : pow2 n ≤ pow10 n := Nat.pow_le_pow_left (by decide) n

def Parts.ofFloat (x : Float) : Parts :=
  let bits := x.toBits.toNat
  let negative := bits / pow2 63 == 1
  let exponent : Nat := bits / pow2 52 % pow2 11
  let fraction := bits % pow2 52
  if exponent = 2047 then
    if fraction = 0 then .infinite negative else .undefined
  else if exponent = 0 then .finite negative fraction (-1074)
  else .finite negative (pow2 52 + fraction) ((exponent : Int) - 1075)

/-- The integer part: what is left when the fraction is cut off. -/
def truncate (negative : Bool) (mantissa : Nat) (exponent : Int) : Int :=
  let magnitude := mantissa * pow2 exponent.toNat / pow2 (-exponent).toNat
  if negative then -magnitude else magnitude

/-- The multiple of `10 ^ scale` that reads back as `mantissa * 2 ^ exponent`, as its factor: the
nearer of two, and of two equally near the even one. Both ends of the interval count when the
mantissa is even. Below a power of two the doubles lie twice as close. -/
def onGrid (mantissa : Nat) (exponent scale : Int) : Option Nat :=
  let below := if mantissa = pow2 52 && exponent > -1074 then 4 * mantissa - 1 else 4 * mantissa - 2
  let above := 4 * mantissa + 2
  let a := pow2 (exponent - 2).toNat * pow10 (-scale).toNat
  let b := pow2 (2 - exponent).toNat * pow10 scale.toNat
  let readsBack := fun n : Nat =>
    if mantissa % 2 = 0 then below * a ≤ n * b && n * b ≤ above * a
    else below * a < n * b && n * b < above * a
  let floor := 4 * mantissa * a / b
  match readsBack floor, readsBack (floor + 1) with
  | false, false => none
  | true, false => some floor
  | false, true => some (floor + 1)
  | true, true =>
    let left := 4 * mantissa * a - floor * b
    let right := (floor + 1) * b - 4 * mantissa * a
    if left < right || left == right && floor % 2 == 0 then some floor else some (floor + 1)

/-- Grids from coarse to fine. -/
def search (mantissa : Nat) (exponent : Int) : Nat → Int → Nat × Int
  | 0, scale => (0, scale)
  | steps + 1, scale =>
    match onGrid mantissa exponent scale with
    | some n => (n, scale)
    | none => search mantissa exponent steps (scale - 1)

/-- A factor and a power of ten. No double reaches `10 ^ 309`, and `10 ^ -324` is fine enough for
all of them. -/
def shortest (mantissa : Nat) (exponent : Int) : Nat × Int :=
  if mantissa = 0 then (0, 0) else search mantissa exponent 640 309

end EventFilter.Decimal
