import ClusterUpgrade.Text.Blank
import ClusterUpgrade.Text.Decimal
import Mathlib.Algebra.Ring.Nat
import Mathlib.Data.List.Basic
import Mathlib.Data.List.Induction
import Mathlib.Data.List.TakeWhile

/-!
Runs of digits. Main statement: `digits_ofDigits`, a run without leading zeros is the numeral of the
number that it spells. A padded numeral is read back in front of any text that goes on without a
digit.
-/

namespace ClusterUpgrade.Text

theorem isDigit_of_mem_paddedDigits {width n : Nat} {c : Char} (h : c ∈ paddedDigits width n) :
    isDigit c = true := by
  unfold paddedDigits at h
  rcases List.mem_append.mp h with hzero | hdigit
  · rw [List.eq_of_mem_replicate hzero]
    rfl
  · exact isDigit_of_mem_digits n c hdigit

theorem ofDigits_paddedDigits (width n : Nat) : ofDigits (paddedDigits width n) = n := by
  have hzeros (count : Nat) (run : List Char) :
      ofDigits (List.replicate count '0' ++ run) = ofDigits run := by
    induction count with
    | zero => rfl
    | succ count ih =>
      rw [List.replicate_succ, List.cons_append]
      exact ih
  exact (hzeros _ _).trans (ofDigits_digits n)

theorem paddedDigits_ne_nil (width n : Nat) : paddedDigits width n ≠ [] :=
  List.append_ne_nil_of_right_ne_nil _ (digits_ne_nil n)

theorem exists_paddedDigits_eq_cons (width n : Nat) :
    ∃ c tail, paddedDigits width n = c :: tail ∧ isDigit c = true := by
  obtain ⟨c, tail, htext⟩ := List.exists_cons_of_ne_nil (paddedDigits_ne_nil width n)
  exact ⟨c, tail, htext, isDigit_of_mem_paddedDigits (htext ▸ List.mem_cons_self)⟩

theorem paddedDigits_append_ne_cons {c : Char} (h : isDigit c = false) (width n : Nat)
    (rest tail : List Char) : paddedDigits width n ++ rest ≠ c :: tail := by
  obtain ⟨d, others, htext, hdigit⟩ := exists_paddedDigits_eq_cons width n
  rw [htext, List.cons_append]
  rintro heq
  obtain rfl := (List.cons.inj heq).1
  rw [h] at hdigit
  cases hdigit

theorem length_digits_le {width n : Nat} (h : n < 10 ^ (width + 1)) :
    (digits n).length ≤ width + 1 := by
  induction width generalizing n with
  | zero =>
    rw [digits_of_lt (by simpa using h)]
    rfl
  | succ width ih =>
    by_cases hsmall : n < 10
    · rw [digits_of_lt hsmall]
      exact Nat.le_add_left 1 (width + 1)
    · rw [digits_of_le (by omega), List.length_append]
      have hless : n / 10 < 10 ^ (width + 1) := by
        rw [Nat.pow_succ] at h
        omega
      exact Nat.add_le_add_right (ih hless) 1

theorem length_paddedDigits {width n : Nat} (h : n < 10 ^ (width + 1)) :
    (paddedDigits (width + 1) n).length = width + 1 := by
  have hlength := length_digits_le h
  rw [paddedDigits, List.length_append, List.length_replicate]
  omega

theorem isDigit_iff {c : Char} : isDigit c = true ↔ 48 ≤ c.toNat ∧ c.toNat ≤ 57 := by
  simp only [isDigit, Bool.and_eq_true, decide_eq_true_eq, Char.le_def, UInt32.le_iff_toNat_le]
  rfl

theorem isBlank_of_isDigit {c : Char} (h : isDigit c = true) : isBlank c = false := by
  obtain ⟨hlow, hhigh⟩ := isDigit_iff.mp h
  exact isBlank_of_printable (by omega) (by omega)

theorem ofDigits_lt {run : List Char} (h : ∀ c ∈ run, isDigit c = true) :
    ofDigits run < 10 ^ run.length := by
  induction run using List.reverseRecOn with
  | nil => exact Nat.one_pos
  | append_singleton run c ih =>
    have hrun := ih fun d hd => h d (List.mem_append_left _ hd)
    have hcode := isDigit_iff.mp (h c (List.mem_append_right _ List.mem_cons_self))
    rw [ofDigits_append_singleton, List.length_append, List.length_singleton, Nat.pow_succ]
    unfold digitValue
    omega

theorem takeNumber?_paddedDigits {c : Char} (h : isDigit c = false) (width n : Nat)
    (rest : List Char) :
    takeNumber? (paddedDigits width n ++ c :: rest) = some (n, c :: rest) := by
  have hdigits : ∀ d ∈ paddedDigits width n, isDigit d = true := fun _ =>
    isDigit_of_mem_paddedDigits
  have hrun : (paddedDigits width n ++ c :: rest).takeWhile isDigit = paddedDigits width n := by
    rw [List.takeWhile_append_of_pos hdigits, List.takeWhile_cons_of_neg (by simp [h]),
      List.append_nil]
  have hrest : (paddedDigits width n ++ c :: rest).dropWhile isDigit = c :: rest := by
    rw [List.dropWhile_append_of_pos hdigits, List.dropWhile_cons_of_neg (by simp [h])]
  unfold takeNumber?
  rw [hrun, hrest]
  split
  · next hempty => exact absurd hempty (paddedDigits_ne_nil width n)
  · rw [ofDigits_paddedDigits]

/-! ### Numerals without leading zeros -/

theorem digitChar_digitValue {c : Char} (h : isDigit c = true) : digitChar (digitValue c) = c := by
  obtain ⟨hlow, hhigh⟩ := isDigit_iff.mp h
  unfold digitChar digitValue
  rw [show 48 + (c.toNat - 48) % 10 = c.toNat by omega, Char.ofNat_toNat]

theorem head?_digits_ne_zero {n : Nat} (h : 0 < n) : (digits n).head? ≠ some '0' := by
  induction n using Nat.strongRecOn with
  | ind n ih =>
    by_cases hsmall : n < 10
    · have hchars : ∀ m < 10, 0 < m → digitChar m ≠ '0' := by decide
      simpa [digits_of_lt hsmall] using hchars n hsmall h
    · rw [digits_of_le (by omega), List.head?_append_of_ne_nil _ (digits_ne_nil _)]
      exact ih (n / 10) (by omega) (by omega)

theorem digits_ofDigits {run : List Char} (hne : run ≠ []) (hdigits : ∀ c ∈ run, isDigit c = true)
    (hlead : run.length = 1 ∨ run.head? ≠ some '0') : digits (ofDigits run) = run := by
  induction run using List.reverseRecOn with
  | nil => exact absurd rfl hne
  | append_singleton run c ih =>
    have hlast : isDigit c = true := hdigits c (by simp)
    have hvalue : digitValue c < 10 := by
      have hcode := isDigit_iff.mp hlast
      unfold digitValue
      omega
    rw [ofDigits_append_singleton]
    by_cases hrun : run = []
    · subst hrun
      rw [show 10 * ofDigits [] + digitValue c = digitValue c by simp [ofDigits],
        digits_of_lt hvalue, digitChar_digitValue hlast, List.nil_append]
    · have hhead : run.head? ≠ some '0' := by
        rcases hlead with hshort | hhead
        · simp [hrun] at hshort
        · rwa [List.head?_append_of_ne_nil _ hrun] at hhead
      have hnumeral := ih hrun (fun d hd => hdigits d (by simp [hd])) (.inr hhead)
      have hpositive : 0 < ofDigits run := by
        apply Nat.pos_of_ne_zero
        intro hzero
        rw [hzero] at hnumeral
        apply hhead
        rw [← hnumeral, digits_of_lt (by decide)]
        rfl
      rw [digits_of_le (by omega), digitChar_mod,
        show (10 * ofDigits run + digitValue c) / 10 = ofDigits run by omega,
        show (10 * ofDigits run + digitValue c) % 10 = digitValue c by omega, hnumeral,
        digitChar_digitValue hlast]

end ClusterUpgrade.Text
