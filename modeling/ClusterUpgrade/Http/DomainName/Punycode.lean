import ClusterUpgrade.Text.Decimal

/-!
Labels of domain names in ASCII. The ASCII characters of a label stand in front; digits of base 36
after the last dash say which other characters are to be inserted, in ascending order, and where.
-/

namespace ClusterUpgrade.Http.DomainName.Punycode

/-- The digits of a number come in rising order of weight. One below a threshold ends the number;
the threshold depends on the bias and lies between a least one and a greatest one. -/
def base : Nat := 36

def leastThreshold : Nat := 1

def greatestThreshold : Nat := 26

/-- The bias at the start of a label. -/
def firstBias : Nat := 72

/-- The first code that has to be inserted. -/
def firstCode : Nat := 0x80

/-- The threshold of the digit at a place, where places are counted in steps of the base. -/
def threshold (bias place : Nat) : Nat :=
  max leastThreshold (min greatestThreshold (place - bias))

theorem threshold_bounds (bias place : Nat) :
    1 ≤ threshold bias place ∧ threshold bias place < base := by
  simp only [threshold, leastThreshold, greatestThreshold, base]
  omega

/-- The steps that a distance is too long for one more digit, and the rest of it. -/
def shorten (distance : Nat) : Nat × Nat :=
  if distance ≤ (base - leastThreshold) * greatestThreshold / 2 then (0, distance)
  else
    let (steps, rest) := shorten (distance / (base - leastThreshold))
    (steps + 1, rest)
termination_by distance
decreasing_by
  simp only [base, leastThreshold, greatestThreshold] at *
  omega

/-- The bias after an insertion, from its distance and how many characters there are then. -/
def adapted (distance count : Nat) (isFirst : Bool) : Nat :=
  let damped := distance / if isFirst then 700 else 2
  let (steps, rest) := shorten (damped + damped / count)
  base * steps + (base - leastThreshold + 1) * rest / (rest + 38)

/-! ## Writing -/

def digit (value : Nat) : Char := Char.ofNat (if value < 26 then 97 + value else 22 + value)

/-- The digits of a number. -/
def digits (bias place number : Nat) : List Char :=
  let least := threshold bias place
  if number < least then [digit number]
  else digit (least + (number - least) % (base - least))
    :: digits bias (place + base) ((number - least) / (base - least))
termination_by number
decreasing_by
  have hbounds := threshold_bounds bias place
  exact Nat.lt_of_le_of_lt (Nat.div_le_self _ _) (by omega)

/-- How far a label has been written. -/
structure Writing where
  /-- The least code that has not been written. -/
  code : Nat := firstCode
  /-- The insertions that were passed over. -/
  distance : Nat := 0
  bias : Nat := firstBias
  /-- How many characters have been written, and how many of them are ASCII. -/
  count : Nat
  basicCount : Nat
  written : List Char
  deriving Repr, DecidableEq, Inhabited

/-- Passes a character of the label, or writes it if it is the one whose turn has come. -/
def Writing.step (writing : Writing) (code : Nat) : Writing :=
  if code < writing.code then { writing with distance := writing.distance + 1 }
  else if code = writing.code then
    { writing with
      distance := 0
      bias := adapted writing.distance (writing.count + 1) (writing.count == writing.basicCount)
      count := writing.count + 1
      written := writing.written ++ digits writing.bias base writing.distance }
  else writing

/-- Writes all characters of one code. -/
def Writing.insert (label : List Nat) (writing : Writing) (code : Nat) : Writing :=
  let start := { writing with
    code, distance := writing.distance + (code - writing.code) * (writing.count + 1) }
  let done := label.foldl Writing.step start
  { done with code := code + 1, distance := done.distance + 1 }

def encode (label : List Char) : List Char :=
  let basic := label.filter (·.toNat < firstCode)
  let codes := ((label.map Char.toNat).filter (firstCode ≤ ·)).eraseDups.mergeSort
  let start : Writing :=
    { count := basic.length, basicCount := basic.length
      written := if basic.isEmpty then [] else basic ++ ['-'] }
  (codes.foldl (Writing.insert (label.map Char.toNat)) start).written

/-! ## Reading -/

def digitValue? (c : Char) : Option Nat :=
  if 'a' ≤ c && c ≤ 'z' then some (c.toNat - 97)
  else if 'A' ≤ c && c ≤ 'Z' then some (c.toNat - 65)
  else if Text.isDigit c then some (26 + Text.digitValue c)
  else none

/-- How far a label has been read. -/
structure Reading where
  code : Nat := firstCode
  /-- Where the last insertion left off. -/
  place : Nat := 0
  bias : Nat := firstBias
  label : List Char
  /-- The number that is being read so far, and the weight and the place of its next digit. -/
  number : Nat := 0
  weight : Nat := 1
  digitPlace : Nat := base
  deriving Repr, DecidableEq, Inhabited

/-- Inserts a character after a number of insertions that are passed over. -/
def Reading.insert? (reading : Reading) (distance : Nat) : Option Reading :=
  let count := reading.label.length + 1
  let total := reading.place + distance
  let code := reading.code + total / count
  let place := total % count
  if code.isValidChar then
    some {
      code
      place := place + 1
      bias := adapted distance count (reading.place == 0)
      label := reading.label.take place ++ Char.ofNat code :: reading.label.drop place }
  else none

/-- Reads a digit. Numbers have 32 bits. -/
def Reading.step? (reading : Reading) (c : Char) : Option Reading := do
  let value ← digitValue? c
  let number := reading.number + value * reading.weight
  let least := threshold reading.bias reading.digitPlace
  let weight := reading.weight * (base - least)
  if Text.bound32 ≤ reading.place + number then none
  else if value < least then reading.insert? number
  else if Text.bound32 ≤ weight then none
  else some { reading with number, weight, digitPlace := reading.digitPlace + base }

/-- The label that an ASCII text spells. -/
def decode? (text : List Char) : Option (List Char) := do
  let basic := (text.reverse.dropWhile (· != '-')).drop 1 |>.reverse
  let digits := if basic.isEmpty then text else text.drop (basic.length + 1)
  if basic.all (·.toNat < firstCode) then
    let reading ← digits.foldlM Reading.step? { label := basic }
    if reading.weight = 1 then some reading.label else none
  else none

end ClusterUpgrade.Http.DomainName.Punycode
