/-!
Finite double-precision numbers in exact arithmetic. Every operation rounds the exact result to the
nearest double, of two equally near ones to the even one, and has no result past the greatest one.
-/

namespace ClusterUpgrade

/-- The size of a double: `mantissa · 2 ^ exponent`, with a mantissa below `2 ^ 53` that reaches
`2 ^ 52` unless the exponent is the least one. -/
structure Magnitude where
  mantissa : Nat
  exponent : Int
  deriving Repr, DecidableEq, Inhabited

/-- A double with its sign, which zero has as well. -/
structure Double where
  isNegative : Bool
  magnitude : Magnitude
  deriving Repr, DecidableEq, Inhabited

namespace Magnitude

def leastExponent : Int := -1074

def greatestExponent : Int := 971

def zero : Magnitude := { mantissa := 0, exponent := leastExponent }

/-- The quotient rounded to the nearest integer, a half to the even one. -/
def roundedQuotient (numerator denominator : Nat) : Nat :=
  let quotient := numerator / denominator
  let twice := 2 * (numerator % denominator)
  if denominator < twice ∨ denominator = twice ∧ quotient % 2 = 1 then quotient + 1 else quotient

/-- The greatest `k` such that `2 ^ k` is not above a positive fraction. -/
def binaryOrder (numerator denominator : Nat) : Int :=
  let order : Int := numerator.log2 - denominator.log2
  let isReached : Bool := decide
    (denominator * Nat.pow 2 order.toNat ≤ numerator * Nat.pow 2 (-order).toNat)
  if isReached then order else order - 1

/-- The magnitude nearest to a fraction. -/
def ofFraction? (numerator denominator : Nat) : Option Magnitude :=
  if numerator = 0 then some zero
  else
    let exponent := max leastExponent (binaryOrder numerator denominator - 52)
    let mantissa := roundedQuotient (numerator * Nat.pow 2 (-exponent).toNat)
      (denominator * Nat.pow 2 exponent.toNat)
    let rounded : Magnitude :=
      if mantissa = Nat.pow 2 53 then { mantissa := Nat.pow 2 52, exponent := exponent + 1 }
      else { mantissa, exponent }
    if rounded.exponent ≤ greatestExponent then some rounded else none

/-- Numerator and denominator of a magnitude. -/
def fraction (value : Magnitude) : Nat × Nat :=
  (value.mantissa * Nat.pow 2 value.exponent.toNat, Nat.pow 2 (-value.exponent).toNat)

def times? (first second : Magnitude) : Option Magnitude :=
  ofFraction? (first.fraction.1 * second.fraction.1) (first.fraction.2 * second.fraction.2)

/-- The quotient of a magnitude and a positive one. -/
def over? (first second : Magnitude) : Option Magnitude :=
  ofFraction? (first.fraction.1 * second.fraction.2) (first.fraction.2 * second.fraction.1)

def ofNat? (n : Nat) : Option Magnitude := ofFraction? n 1

/-- The magnitude nearest to a power of ten. -/
def powerOfTen? (exponent : Nat) : Option Magnitude := ofNat? (Nat.pow 10 exponent)

end Magnitude

end ClusterUpgrade
