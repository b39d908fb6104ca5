import ClusterUpgrade.Number.Double
import ClusterUpgrade.Text.Decimal

/-!
The shortest decimals that read back as a given double. Of the decimals that round to it, those with
the fewest digits count, and of these the nearest one.
-/

namespace ClusterUpgrade

/-- The number `digits · 10 ^ exponent`. -/
structure Decimal where
  digits : Nat
  exponent : Int
  deriving Repr, DecidableEq, Inhabited

namespace Magnitude

/-- The numbers that round to a magnitude, over a common denominator. The ends round to it as well
if the mantissa is even. -/
structure Surroundings where
  low : Nat
  value : Nat
  high : Nat
  denominator : Nat
  hasEnds : Bool

/-- Half of the way to both neighbours; below a power of two the neighbours are closer. -/
def surroundings (magnitude : Magnitude) : Surroundings :=
  let scale := Nat.pow 2 (magnitude.exponent - 2).toNat
  let value := 4 * magnitude.mantissa
  let isPowerOfTwo : Bool :=
    magnitude.mantissa == Nat.pow 2 52 && leastExponent < magnitude.exponent
  { low := (if isPowerOfTwo then value - 1 else value - 2) * scale
    value := value * scale
    high := (value + 2) * scale
    denominator := Nat.pow 2 (2 - magnitude.exponent).toNat
    hasEnds := magnitude.mantissa % 2 == 0 }

namespace Surroundings

/-- Whether `digits · 10 ^ exponent` rounds to the magnitude. -/
def holds (around : Surroundings) (digits : Nat) (exponent : Int) : Bool :=
  let candidate := digits * Nat.pow 10 exponent.toNat * around.denominator
  let unit := Nat.pow 10 (-exponent).toNat
  let low := around.low * unit
  let high := around.high * unit
  0 < digits && (if around.hasEnds then low ≤ candidate && candidate ≤ high
    else low < candidate && candidate < high)

/-- The multiple of `10 ^ exponent` nearest to the magnitude among those that round to it. -/
def onGrid? (around : Surroundings) (exponent : Int) : Option Nat :=
  let step := Nat.pow 10 exponent.toNat * around.denominator
  let value := around.value * Nat.pow 10 (-exponent).toNat
  let below := value / step
  let isBelowNearer : Bool :=
    2 * (value % step) < step || (2 * (value % step) == step && below % 2 == 0)
  match around.holds below exponent, around.holds (below + 1) exponent with
  | true, true => some (if isBelowNearer then below else below + 1)
  | true, false => some below
  | false, true => some (below + 1)
  | false, false => none

/-- The first hit on ever finer grids. -/
def firstHit (around : Surroundings) : (steps : Nat) → (exponent : Int) → Decimal
  | 0, exponent => { digits := around.value / around.denominator, exponent }
  | steps + 1, exponent =>
    match around.onGrid? exponent with
    | some digits => { digits, exponent }
    | none => firstHit around steps (exponent - 1)

/-- An exponent of ten that is not below the order of the magnitude. -/
def decimalOrder (around : Surroundings) : Int :=
  if around.denominator ≤ around.value then
    (Text.digits (around.value / around.denominator)).length
  else 1 - ((Text.digits (around.denominator / around.value)).length : Int)

end Surroundings

/-- The grids to look at: seventeen digits tell every double from all others. -/
def gridCount : Nat := 20

/-- The shortest decimal that rounds to a magnitude. -/
def shortest (magnitude : Magnitude) : Decimal :=
  if magnitude.mantissa = 0 then { digits := 0, exponent := 0 }
  else
    let around := magnitude.surroundings
    around.firstHit gridCount around.decimalOrder

end Magnitude

end ClusterUpgrade
