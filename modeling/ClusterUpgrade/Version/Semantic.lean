import ClusterUpgrade.Text.Decimal
import ClusterUpgrade.Text.Split

/-!
Semantic versions: numbers, an optional pre-release, and no build part. A version reads from
`MAJOR.MINOR.PATCH[-PRE][+BUILD]`, and two versions compare by semantic-version precedence.
-/

namespace ClusterUpgrade

open Text

/-- One dot-separated part of a pre-release. -/
inductive PreRelease where
  | numeric (value : Nat)
  | alphanumeric (text : List Char)
  deriving Repr, DecidableEq, Inhabited

structure Version where
  major : Nat
  minor : Nat
  patch : Nat
  preRelease : List PreRelease
  deriving Repr, DecidableEq, Inhabited

namespace PreRelease

/-- Numeric parts compare by value and stand below alphanumeric ones, which compare by character. -/
protected def compare : PreRelease → PreRelease → Ordering
  | .numeric a, .numeric b => compare a b
  | .numeric _, .alphanumeric _ => .lt
  | .alphanumeric _, .numeric _ => .gt
  | .alphanumeric a, .alphanumeric b => compare (a.map Char.toNat) (b.map Char.toNat)

instance : Ord PreRelease := ⟨PreRelease.compare⟩

def chars : PreRelease → List Char
  | .numeric value => digits value
  | .alphanumeric text => text

/-- Parts compare left to right, and a list stands below its proper extensions. -/
def compareParts : List PreRelease → List PreRelease → Ordering
  | [], [] => .eq
  | [], _ :: _ => .lt
  | _ :: _, [] => .gt
  | a :: as, b :: bs => (PreRelease.compare a b).then (compareParts as bs)

/-- A version without a pre-release stands above the same version with one. -/
def compareLists : List PreRelease → List PreRelease → Ordering
  | [], [] => .eq
  | [], _ :: _ => .gt
  | _ :: _, [] => .lt
  | as, bs => compareParts as bs

/-- A letter, a digit or a hyphen of ASCII. -/
def isPartChar (c : Char) : Bool :=
  isDigit c || ('a' ≤ c && c ≤ 'z') || ('A' ≤ c && c ≤ 'Z') || c == '-'

/-- A non-empty run of letters, digits and hyphens. -/
def isPart (run : List Char) : Bool := !run.isEmpty && run.all isPartChar

/-- A numeral without leading zeros. -/
def isPlainNumeral (run : List Char) : Bool :=
  !run.isEmpty && run.all isDigit && (run.length == 1 || run.head? != some '0')

/-- A part of a pre-release; a part of digits alone has no leading zeros. -/
def ofChars? (run : List Char) : Option PreRelease :=
  if !isPart run then none
  else if run.all isDigit then
    if isPlainNumeral run then some (.numeric (ofDigits run)) else none
  else some (.alphanumeric run)

end PreRelease

namespace Version

/-- A numeral without leading zeros, of a number of at most 64 bits. -/
def number? (run : List Char) : Option Nat :=
  if PreRelease.isPlainNumeral run ∧ ofDigits run < bound64 then some (ofDigits run) else none

/-- The parts of a pre-release that a text may spell, none if it has no pre-release. -/
def preRelease? : Option (List Char) → Option (List PreRelease)
  | none => some []
  | some text => (splitOn '.' text).mapM PreRelease.ofChars?

def isBuild : Option (List Char) → Bool
  | none => true
  | some text => (splitOn '.' text).all PreRelease.isPart

/-- The characters in front of a pre-release or build part. -/
def core (text : List Char) : List Char := text.takeWhile fun c => c != '-' && c != '+'

/-- The pre-release and build parts with their marks. -/
def suffix (text : List Char) : List Char := text.dropWhile fun c => c != '-' && c != '+'

/-- The version that a text spells; a build part is checked and dropped. -/
def ofChars? (text : List Char) : Option Version := do
  let (front, build) := cutAt '+' text
  let (core, preRelease) := cutAt '-' front
  match splitOn '.' core with
  | [major, minor, patch] =>
    let major ← number? major
    let minor ← number? minor
    let patch ← number? patch
    let preRelease ← preRelease? preRelease
    if isBuild build then some { major, minor, patch, preRelease } else none
  | _ => none

/-- Semantic-version precedence. -/
protected def compare (a b : Version) : Ordering :=
  (compare a.major b.major).then <| (compare a.minor b.minor).then <|
    (compare a.patch b.patch).then <| PreRelease.compareLists a.preRelease b.preRelease

instance : Ord Version := ⟨Version.compare⟩

def isBelow (a b : Version) : Bool := Version.compare a b == .lt

def chars (version : Version) : List Char :=
  let numbers := join '.' [digits version.major, digits version.minor, digits version.patch]
  match version.preRelease with
  | [] => numbers
  | parts => numbers ++ '-' :: join '.' (parts.map PreRelease.chars)

def text (version : Version) : String := String.ofList version.chars

/-- The `major.minor` that version gates and consent tokens name. -/
def gatePrefix (version : Version) : String :=
  String.ofList (digits version.major ++ '.' :: digits version.minor)

end Version

end ClusterUpgrade
