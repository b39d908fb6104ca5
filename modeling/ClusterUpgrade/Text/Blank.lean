/-!
Blank characters and trimming. A character is blank when it has the Unicode property `White_Space`.
-/

namespace ClusterUpgrade.Text

/-- The characters with the Unicode property `White_Space`. -/
def isBlank (c : Char) : Bool :=
  let code := c.toNat
  (0x09 ≤ code && code ≤ 0x0d) || code == 0x20 || code == 0x85 || code == 0xa0 || code == 0x1680
    || (0x2000 ≤ code && code ≤ 0x200a) || code == 0x2028 || code == 0x2029 || code == 0x202f
    || code == 0x205f || code == 0x3000

/-- Drops the longest suffix whose characters all satisfy `p`. -/
def dropSuffixWhile (p : Char → Bool) : List Char → List Char
  | [] => []
  | c :: rest =>
    match dropSuffixWhile p rest with
    | [] => if p c then [] else [c]
    | kept => c :: kept

/-- Drops blank characters at both ends. -/
def trimChars (text : List Char) : List Char :=
  dropSuffixWhile isBlank (text.dropWhile isBlank)

def trim (text : String) : String := String.ofList (trimChars text.toList)

def trimEnd (text : String) : String := String.ofList (dropSuffixWhile isBlank text.toList)

/-- A text without any character that is not blank. -/
def isAllBlank (text : String) : Bool := text.toList.all isBlank

theorem isBlank_of_printable {c : Char} (hlow : 0x21 ≤ c.toNat) (hhigh : c.toNat ≤ 0x7e) :
    isBlank c = false := by
  simp only [isBlank, Bool.or_eq_false_iff, Bool.and_eq_false_iff, decide_eq_false_iff_not,
    beq_eq_false_iff_ne]
  omega

theorem dropSuffixWhile_append_of_not {p : Char → Bool} {c : Char} (h : p c = false)
    (front : List Char) : dropSuffixWhile p (front ++ [c]) = front ++ [c] := by
  induction front with
  | nil => simp [dropSuffixWhile, h]
  | cons d rest ih =>
    simp only [List.cons_append, dropSuffixWhile, ih]
    cases rest <;> rfl

end ClusterUpgrade.Text
