import ClusterUpgrade.Text.Hexadecimal

/-!
Numerals in a base up to sixteen.
-/

namespace ClusterUpgrade.Text

/-- The value of a digit in a base. -/
def digitIn? (base : Nat) (c : Char) : Option Nat := (hexValue? c).filter (· < base)

/-- The number that a run of at least one digit spells in a base. -/
def numeral? (base : Nat) (text : List Char) : Option Nat :=
  if text.isEmpty then none
  else (text.mapM (digitIn? base)).map (·.foldl (fun value digit => base * value + digit) 0)

end ClusterUpgrade.Text
