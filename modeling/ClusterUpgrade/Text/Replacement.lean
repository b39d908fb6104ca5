import ClusterUpgrade.Text.Hexadecimal
import ClusterUpgrade.Text.Split

/-!
Tables that say which characters stand for which. A table is written as entries with blanks between
them, and an entry with the codes of characters as hexadecimal numbers: `41-5a>61` replaces each of
a range by the one that is as far from another character, `100-12e/2>101` every second of a range,
and `df>73,73` one character by several.
-/

namespace ClusterUpgrade.Text

/-- Replaces characters from the first to the last that are so many steps apart. -/
structure Replacement where
  first : Nat
  last : Nat
  step : Nat
  /-- The codes that the first one is replaced by. -/
  targets : List Nat
  deriving Repr, DecidableEq, Inhabited

namespace Replacement

def replaces (entry : Replacement) (c : Char) : Bool :=
  entry.first ≤ c.toNat && c.toNat ≤ entry.last && (c.toNat - entry.first) % entry.step == 0

/-- What a character is replaced by: as far from the targets as it is from the first one. -/
def targetsOf (entry : Replacement) (c : Char) : List Char :=
  entry.targets.map fun target => Char.ofNat (target + (c.toNat - entry.first))

/-! ## Reading -/

/-- The number that hexadecimal digits spell. -/
def number? (digits : List Char) : Option Nat :=
  digits.foldlM (fun value c => (hexValue? c).map (16 * value + ·)) 0

/-- Reads an entry. -/
def parse? (text : List Char) : Option Replacement := do
  let (source, target) := cutAt '>' text
  let (range, step) := cutAt '/' source
  let (first, last) := cutAt '-' range
  let targets ← (splitOn ',' (← target)).mapM number?
  let first ← number? first
  let last ← last.elim (some first) number?
  return { first, last, step := ← step.elim (some 1) number?, targets }

/-- Reads a table; the lines that it is written on do not matter. -/
def table (text : String) : Array Replacement :=
  let entries := splitOn ' ' (text.toList.map fun c => if c = '\n' then ' ' else c)
  (entries.filterMap parse?).toArray

end Replacement

end ClusterUpgrade.Text
