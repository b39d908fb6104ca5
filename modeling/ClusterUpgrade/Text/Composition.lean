import ClusterUpgrade.Text.Composition.Table

/-!
Canonical composition. One text can be written with letters and marks apart or as one character, and
with marks in several orders; `composed` gives the form with as few characters as possible.
-/

namespace ClusterUpgrade.Text.Composition

/-! ## Syllables of Hangul -/

/-- The first characters of a row of leading consonants, vowels or trailing consonants, and how many
there are. There is always a trailing consonant; the first one is silent. -/
structure HangulPart where
  first : Nat
  count : Nat
  deriving Repr, DecidableEq, Inhabited

def leading : HangulPart := { first := 0x1100, count := 19 }

def vowels : HangulPart := { first := 0x1161, count := 21 }

def trailing : HangulPart := { first := 0x11a7, count := 28 }

/-- The first of the syllables, which stand in the order of their parts. -/
def firstSyllable : Nat := 0xac00

/-- The place of a character in a row. -/
def HangulPart.place? (part : HangulPart) (c : Char) : Option Nat :=
  if part.first ≤ c.toNat && c.toNat < part.first + part.count then some (c.toNat - part.first)
  else none

/-- The place of a syllable among all. -/
def syllablePlace? (c : Char) : Option Nat :=
  HangulPart.place?
    { first := firstSyllable, count := leading.count * vowels.count * trailing.count } c

/-- The parts of the syllable at a place. -/
def syllableParts (place : Nat) : List Char :=
  let tail := place % trailing.count
  let front := place / trailing.count
  let parts := [leading.first + front / vowels.count, vowels.first + front % vowels.count]
  (if tail = 0 then parts else parts ++ [trailing.first + tail]).map Char.ofNat

/-- The syllable that a consonant and a vowel make, or a syllable without a trailing consonant and
one. -/
def syllable? (front back : Char) : Option Char :=
  match leading.place? front, vowels.place? back, syllablePlace? front, trailing.place? back with
  | some lead, some vowel, _, _ =>
    some (Char.ofNat (firstSyllable + (lead * vowels.count + vowel) * trailing.count))
  | _, _, some place, some tail =>
    if place % trailing.count = 0 && tail != 0 then some (Char.ofNat (front.toNat + tail)) else none
  | _, _, _, _ => none

/-! ## Taking apart -/

/-- No character is made of others in more steps. -/
def greatestDepth : Nat := 4

/-- The characters that a character is made of in the end. -/
def parts : Nat → Char → List Char
  | 0, c => [c]
  | depth + 1, c =>
    match syllablePlace? c, equivalents.find? (·.replaces c), pairs.find? (·.replaces c) with
    | some place, _, _ => syllableParts place
    | _, some entry, _ => entry.targetsOf c
    | _, _, some entry => (entry.targetsOf c).flatMap (parts depth)
    | _, _, _ => [c]

/-- The class of a mark; zero for a character that is no mark. -/
def markClass (c : Char) : Nat :=
  ((markClasses.find? fun (first, last, _) => first ≤ c.toNat && c.toNat ≤ last).map (·.2.2)).getD 0

/-- Puts a character at the end of a text that is given from its end: a mark goes in front of marks
of higher classes. -/
def insertMark (c : Char) : List Char → List Char
  | [] => [c]
  | d :: rest =>
    if markClass c != 0 && markClass c < markClass d then d :: insertMark c rest else c :: d :: rest

/-- The text with every character taken apart and marks in the order of their classes. -/
def decomposed (text : List Char) : List Char :=
  ((text.flatMap (parts greatestDepth)).foldl (fun done c => insertMark c done) []).reverse

/-! ## Putting together -/

/-- The character that two others make. -/
def pair? (front back : Char) : Option Char :=
  match syllable? front back with
  | some c => some c
  | none =>
    (pairs.find? (·.targets = [front.toNat, back.toNat])).map fun entry => Char.ofNat entry.first

/-- A text that is being put together. -/
structure Progress where
  /-- What is in front of the base, from its end. -/
  done : List Char := []
  /-- The last character that is no mark. -/
  base : Option Char := none
  /-- The marks after the base that it does not take up, from the last to the first. -/
  marks : List Char := []
  deriving Repr, DecidableEq, Inhabited

def Progress.text (progress : Progress) : List Char :=
  progress.marks ++ progress.base.toList ++ progress.done

/-- A character is taken up by the base, unless a mark between them has the same class or a higher
one. -/
def Progress.add (progress : Progress) (c : Char) : Progress :=
  let isBlocked := progress.marks.head?.any (markClass c ≤ markClass ·)
  match if isBlocked then none else progress.base.bind (pair? · c) with
  | some whole => { progress with base := some whole }
  | none =>
    if markClass c = 0 then { done := progress.text, base := some c }
    else { progress with marks := c :: progress.marks }

/-- Equal for any two ways to write one text. ASCII is composed as it is. -/
def composed (text : List Char) : List Char :=
  if text.all (·.toNat < 0x80) then text
  else ((decomposed text).foldl Progress.add {}).text.reverse

end ClusterUpgrade.Text.Composition
