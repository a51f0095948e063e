import EventFilter.Cli.Trouble
import EventFilter.Decimal.Shortest

/-! Time as a clock tells it, in seconds. Whole seconds are exact however many they are; as soon as
one reading has a fraction, both are doubles. -/
namespace EventFilter.Cli

inductive Instant where
  | whole (seconds : Int)
  | real (seconds : Float)

inductive ClockError where
  /-- The time between two readings has no end. -/
  | endless
  /-- Whole seconds beyond the range of doubles. -/
  | oversized
  deriving DecidableEq, Repr

def ClockError.message : ClockError → String
  | endless => IntegerError.infinite.message
  | oversized => "int too large to convert to float"

def ClockError.trouble (error : ClockError) : Trouble := .plain .overflow error.message

/-- The nearest double, unless that is infinite. -/
def Instant.toFloat : Instant → Except ClockError Float
  | .real x => .ok x
  | .whole n =>
    if Decimal.pow2 1024 ≤ n.natAbs then .error .oversized
    else
      let x := Float.ofScientific n.natAbs false 0
      if x.isInf then .error .oversized else .ok (if n < 0 then -x else x)

/-- Whole milliseconds from one reading to a later one; none if the clock went backwards, or if it
cannot be told. -/
def elapsedMs (start stop : Instant) : Except ClockError Nat :=
  match start, stop with
  | .whole a, .whole b => .ok ((b - a) * 1000).toNat
  | _, _ => do
    match Decimal.Parts.ofFloat (((← stop.toFloat) - (← start.toFloat)) * 1000) with
    | .finite negative mantissa exponent =>
      return (Decimal.truncate negative mantissa exponent).toNat
    | .infinite false => throw .endless
    | .infinite true | .undefined => return 0

theorem elapsedMs_whole (a b : Int) :
    elapsedMs (.whole a) (.whole b) = .ok ((b - a) * 1000).toNat := rfl

end EventFilter.Cli
