import ClusterUpgrade.Number.Shortest

/-!
The number literals of JSON with a fraction or an exponent, or too long for an integer of 64 bits:
the doubles that they denote, and how doubles are written.
-/

namespace ClusterUpgrade

open Text

namespace Magnitude

/-- The powers of ten that scaling multiplies with or divides by go up to this exponent. -/
def greatestPower : Nat := 308

/-- Multiplies with a power of ten, or divides by one. Every step rounds, so the result need not be
the double nearest to the product. -/
def scaled? (value : Magnitude) (exponent : Int) : Option Magnitude :=
  if exponent.natAbs ≤ greatestPower then do
    let power ← powerOfTen? exponent.natAbs
    if 0 ≤ exponent then value.times? power else value.over? power
  else if value.mantissa = 0 then some value
  else if 0 ≤ exponent then none
  else do
    let power ← powerOfTen? greatestPower
    scaled? (← value.over? power) (exponent + greatestPower)
termination_by exponent.natAbs
decreasing_by simp only [greatestPower] at *; omega

end Magnitude

namespace Double

/-- Takes as many digits as fit into 64 bits behind those of a number; the other digits are left. -/
def takeDigits (significand : Nat) : List Char → Nat × List Char
  | [] => (significand, [])
  | c :: rest =>
    let longer := 10 * significand + digitValue c
    if longer < bound64 then takeDigits longer rest else (significand, c :: rest)

/-- The double that a literal denotes, unless it is past the greatest one. Digits that do not fit
into 64 bits count as zeros. -/
def ofLiteral? (isNegative : Bool) (whole fraction : List Char) (exponent : Int) :
    Option Double := do
  let (significand, unusedWhole) := takeDigits 0 whole
  let (significand, unusedFraction) := takeDigits significand fraction
  let exponent := exponent + unusedWhole.length + unusedFraction.length - fraction.length
  return { isNegative, magnitude := ← (← Magnitude.ofNat? significand).scaled? exponent }

def zeros (count : Nat) : List Char := List.replicate count '0'

/-- The least and the greatest place of the point behind the first digit at which a double is
written without an exponent. -/
def leastPoint : Int := -4
def greatestPoint : Int := 16

/-- An exponent with its sign and at least two digits. -/
def exponentText (exponent : Int) : List Char :=
  (if 0 ≤ exponent then '+' else '-') :: paddedDigits 2 exponent.natAbs

/-- A double is written as the shortest decimal that reads back, always with a point or an
exponent. -/
def numeral (value : Double) : List Char :=
  let decimal := value.magnitude.shortest
  let run := digits decimal.digits
  let point : Int := run.length + decimal.exponent
  let unsigned :=
    if decimal.digits = 0 then "0.0".toList
    else if point < leastPoint ∨ greatestPoint < point then
      let mantissa := match run with
        | c :: d :: rest => c :: '.' :: d :: rest
        | short => short
      mantissa ++ 'e' :: exponentText (point - 1)
    else if point ≤ 0 then "0.".toList ++ zeros (-point).toNat ++ run
    else if 0 ≤ decimal.exponent then run ++ zeros decimal.exponent.toNat ++ ".0".toList
    else run.take point.toNat ++ '.' :: run.drop point.toNat
  if value.isNegative then '-' :: unsigned else unsigned

end Double

end ClusterUpgrade
