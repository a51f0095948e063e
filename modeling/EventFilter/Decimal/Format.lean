import EventFilter.Decimal.Shortest

/-! The text of a double: its shortest decimal, positional while the point falls near the digits
and with an exponent otherwise. -/
namespace EventFilter.Decimal

structure Format where
  /-- Positional only if the point stands after more than this many digits. -/
  pointAbove : Int
  pointUpTo : Int
  exponentDigits : Nat
  infinity : String
  undefined : String

def padded (width n : Nat) : String :=
  let digits := toString n
  "".pushn '0' (width - digits.length) ++ digits

/-- A number is never written without a point or an exponent, so it reads back as a double. -/
def Format.finite (format : Format) (mantissa : Nat) (exponent : Int) : String :=
  let (factor, scale) := shortest mantissa exponent
  let digits := (toString factor).toList
  let point := digits.length + scale
  if factor = 0 then "0.0"
  else if format.pointAbove < point && point ≤ format.pointUpTo then
    if point ≤ 0 then "0." ++ "".pushn '0' (-point).toNat ++ String.ofList digits
    else if scale ≥ 0 then String.ofList digits ++ "".pushn '0' scale.toNat ++ ".0"
    else String.ofList (digits.take point.toNat) ++ "." ++ String.ofList (digits.drop point.toNat)
  else
    let power := point - 1
    String.ofList (digits.take 1) ++ (if digits.length > 1 then "." else "")
      ++ String.ofList (digits.drop 1) ++ "e" ++ (if power < 0 then "-" else "+")
      ++ padded format.exponentDigits power.natAbs

def Format.write (format : Format) (x : Float) : String :=
  match Parts.ofFloat x with
  | .finite negative mantissa exponent =>
    (if negative then "-" else "") ++ format.finite mantissa exponent
  | .infinite negative => (if negative then "-" else "") ++ format.infinity
  | .undefined => format.undefined

/-- Positional from `1e-4` to just below `1e16`, and at least two digits in an exponent. -/
def plain : Format := ⟨-4, 16, 2, "inf", "nan"⟩

end EventFilter.Decimal
