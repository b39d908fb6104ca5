/-!
Decimal numerals. Main statement: `ofDigits_digits`, the numeral of a number reads back.
-/

namespace ClusterUpgrade.Text

def isDigit (c : Char) : Bool := '0' ≤ c && c ≤ '9'

def digitValue (c : Char) : Nat := c.toNat - 48

/-- The digit character of a number below ten. -/
def digitChar (n : Nat) : Char := Char.ofNat (48 + n % 10)

/-- The least number that does not fit into 32 bits. -/
def bound32 : Nat := 4294967296

/-- The least number that does not fit into 64 bits. -/
def bound64 : Nat := 18446744073709551616

/-- The number that a run of digits spells. -/
def ofDigits (digits : List Char) : Nat :=
  digits.foldl (fun value c => 10 * value + digitValue c) 0

/-- The numeral of a number, most significant digit first, without leading zeros. -/
def digits (n : Nat) : List Char :=
  if n < 10 then [digitChar n] else digits (n / 10) ++ [digitChar n]
termination_by n

/-- The numeral of a number, filled up with leading zeros to a width. -/
def paddedDigits (width n : Nat) : List Char :=
  let numeral := digits n
  List.replicate (width - numeral.length) '0' ++ numeral

def natText (n : Nat) : String := String.ofList (digits n)

def intText : Int → String
  | .ofNat n => natText n
  | .negSucc n => String.ofList ('-' :: digits (n + 1))

/-- A run of at least one digit in front of a text, as a number, and the rest of the text. -/
def takeNumber? (text : List Char) : Option (Nat × List Char) :=
  match text.takeWhile isDigit with
  | [] => none
  | run => some (ofDigits run, text.dropWhile isDigit)

theorem digitChar_eq (n : Nat) (h : n < 10) :
    digitValue (digitChar n) = n ∧ isDigit (digitChar n) = true := by
  have : ∀ m < 10, digitValue (digitChar m) = m ∧ isDigit (digitChar m) = true := by decide
  exact this n h

theorem digitChar_mod (n : Nat) : digitChar n = digitChar (n % 10) := by
  simp [digitChar]

theorem digitValue_digitChar (n : Nat) : digitValue (digitChar n) = n % 10 := by
  rw [digitChar_mod]
  exact (digitChar_eq _ (Nat.mod_lt _ (by decide))).1

theorem isDigit_digitChar (n : Nat) : isDigit (digitChar n) = true := by
  rw [digitChar_mod]
  exact (digitChar_eq _ (Nat.mod_lt _ (by decide))).2

theorem digits_of_lt {n : Nat} (h : n < 10) : digits n = [digitChar n] := by
  rw [digits, if_pos h]

theorem digits_of_le {n : Nat} (h : 10 ≤ n) : digits n = digits (n / 10) ++ [digitChar n] := by
  rw [digits, if_neg (by omega)]

theorem digits_ne_nil (n : Nat) : digits n ≠ [] := by
  by_cases h : n < 10
  · simp [digits_of_lt h]
  · simp [digits_of_le (Nat.le_of_not_lt h)]

theorem isDigit_of_mem_digits (n : Nat) : ∀ c ∈ digits n, isDigit c = true := by
  induction n using Nat.strongRecOn with
  | ind n ih =>
    by_cases h : n < 10
    · simpa [digits_of_lt h] using isDigit_digitChar n
    · intro c hc
      rw [digits_of_le (Nat.le_of_not_lt h), List.mem_append, List.mem_singleton] at hc
      rcases hc with hc | rfl
      · exact ih (n / 10) (by omega) c hc
      · exact isDigit_digitChar n

theorem ofDigits_append_singleton (run : List Char) (c : Char) :
    ofDigits (run ++ [c]) = 10 * ofDigits run + digitValue c := by
  simp [ofDigits]

theorem ofDigits_digits (n : Nat) : ofDigits (digits n) = n := by
  induction n using Nat.strongRecOn with
  | ind n ih =>
    by_cases h : n < 10
    · rw [digits_of_lt h]
      simpa [ofDigits] using (digitChar_eq n h).1
    · rw [digits_of_le (Nat.le_of_not_lt h), ofDigits_append_singleton, ih (n / 10) (by omega),
        digitValue_digitChar]
      omega

theorem natText_inj {m n : Nat} : natText m = natText n ↔ m = n := by
  constructor
  · intro h
    have hdigits : digits m = digits n := String.ofList_injective h
    rw [← ofDigits_digits m, hdigits, ofDigits_digits]
  · rintro rfl
    rfl

end ClusterUpgrade.Text
