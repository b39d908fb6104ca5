import ClusterUpgrade.Text.Numeral
import ClusterUpgrade.Text.Split

/-!
Internet addresses as URLs write them: numbers of 32 bits in up to four parts between dots, and
eight groups of 16 bits between colons. Both have several spellings and one text.
-/

namespace ClusterUpgrade.Http

open Text

/-! ## Addresses of 32 bits -/

/-- An address of four bytes. -/
structure Address4 where
  number : Nat
  deriving Repr, DecidableEq, Inhabited

namespace Address4

/-- A part: decimal, octal behind a zero, or hexadecimal behind `0x`, which may stand alone. -/
def part? : List Char → Option Nat
  | '0' :: 'x' :: rest => if rest.isEmpty then some 0 else numeral? 16 rest
  | '0' :: 'X' :: rest => if rest.isEmpty then some 0 else numeral? 16 rest
  | ['0'] => some 0
  | '0' :: rest => numeral? 8 rest
  | text => numeral? 10 text

/-- The parts between dots; a dot at the end does not count. -/
def parts (text : List Char) : List (List Char) :=
  let all := splitOn '.' text
  if 1 < all.length ∧ all.getLast? = some [] then all.dropLast else all

/-- Whether a text ends in a number, so that it has to be an address and cannot be a name. -/
def isMeant (text : List Char) : Bool :=
  match (parts text).getLast? with
  | none | some [] => false
  | some last => last.all isDigit || (part? last).isSome

/-- The address that leading bytes and a number for the rest of it make. -/
def ofParts? (leading : List Nat) (last : Nat) : Option Address4 :=
  if leading.length < 4 ∧ leading.all (· < 256) ∧ last < Nat.pow 256 (4 - leading.length) then
    let front := leading.foldl (fun number byte => 256 * number + byte) 0
    some { number := front * Nat.pow 256 (4 - leading.length) + last }
  else none

def parse? (text : List Char) : Option Address4 := do
  let numbers ← (parts text).mapM part?
  ofParts? numbers.dropLast (← numbers.getLast?)

/-- The four bytes, the highest one first. -/
def bytes (address : Address4) : List Nat :=
  [address.number / Nat.pow 256 3 % 256, address.number / Nat.pow 256 2 % 256,
    address.number / 256 % 256, address.number % 256]

def text (address : Address4) : List Char := join '.' (address.bytes.map digits)

end Address4

/-! ## Addresses of 128 bits -/

/-- An address of eight groups of 16 bits. -/
structure Address6 where
  groups : List Nat
  deriving Repr, DecidableEq, Inhabited

namespace Address6

def groupCount : Nat := 8

/-- A group of one to four hexadecimal digits. -/
def group? (text : List Char) : Option Nat :=
  if text.length ≤ 4 then numeral? 16 text else none

/-- A byte in decimal digits without leading zeros. -/
def byte? (text : List Char) : Option Nat :=
  if 1 < text.length ∧ text.head? = some '0' then none else (numeral? 10 text).filter (· < 256)

/-- Four bytes between dots, which make two groups. -/
def dotted? (text : List Char) : Option (List Nat) := do
  match ← (splitOn '.' text).mapM byte? with
  | [a, b, c, d] => some [256 * a + b, 256 * c + d]
  | _ => none

/-- Groups between colons, of which the last two may be written as four bytes. -/
def groups? (allowsDotted : Bool) (text : List Char) : Option (List Nat) := do
  let runs := splitOn ':' text
  let last ← runs.getLast?
  let front ← runs.dropLast.mapM group?
  if allowsDotted && last.contains '.' then return front ++ (← dotted? last)
  else return front ++ [← group? last]

/-- The texts around the first pair of colons. -/
def cutAtPair : List Char → Option (List Char × List Char)
  | ':' :: ':' :: rest => some ([], rest)
  | c :: rest => (cutAtPair rest).map fun (front, after) => (c :: front, after)
  | [] => none

/-- A pair of colons stands for one or more groups of zeros. -/
def parse? (text : List Char) : Option Address6 := do
  match cutAtPair text with
  | none =>
    let groups ← groups? true text
    if groups.length = groupCount then some { groups } else none
  | some (front, after) =>
    let front ← if front.isEmpty then some [] else groups? false front
    let after ← if after.isEmpty then some [] else groups? true after
    let missing := groupCount - (front.length + after.length)
    if missing = 0 then none else some { groups := front ++ List.replicate missing 0 ++ after }

/-- The longest run of zeros from some place on, the first one of several, by its place and its
length. -/
def longestZeros (place : Nat) : List Nat → Nat × Nat
  | [] => (place, 0)
  | group :: rest =>
    let here := ((group :: rest).takeWhile (· == 0)).length
    let later := longestZeros (place + 1) rest
    if later.2 ≤ here then (place, here) else later

def groupText (group : Nat) : List Char := Nat.toDigits 16 group

/-- The groups without leading zeros; the longest run of two or more zeros is left out. -/
def text (address : Address6) : List Char :=
  let written (groups : List Nat) : List Char := join ':' (groups.map groupText)
  let (start, length) := longestZeros 0 address.groups
  if length < 2 then written address.groups
  else
    written (address.groups.take start) ++ "::".toList
      ++ written (address.groups.drop (start + length))

end Address6

end ClusterUpgrade.Http
