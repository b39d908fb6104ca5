import ClusterUpgrade.Version.Semantic

/-!
The order of versions. Comparing the other way around gives the opposite, and only a version itself
compares equal to it, so of two different versions one stands below the other.
-/

namespace ClusterUpgrade

namespace PreRelease

theorem compare_swap (a b : PreRelease) :
    (PreRelease.compare a b).swap = PreRelease.compare b a := by
  cases a with
  | numeric a =>
    cases b with
    | numeric b =>
      have hnumbers : compare b a = (compare a b).swap := Std.OrientedCmp.eq_swap
      exact hnumbers.symm
    | alphanumeric b => rfl
  | alphanumeric a =>
    cases b with
    | numeric b => rfl
    | alphanumeric b =>
      have hcodes :
          compare (b.map Char.toNat) (a.map Char.toNat) =
            (compare (a.map Char.toNat) (b.map Char.toNat)).swap :=
        Std.OrientedCmp.eq_swap
      exact hcodes.symm

theorem eq_of_compare_eq {a b : PreRelease} (h : PreRelease.compare a b = .eq) : a = b := by
  cases a with
  | numeric a =>
    cases b with
    | numeric b =>
      have hnumbers : compare a b = .eq := h
      rw [Std.LawfulEqCmp.eq_of_compare hnumbers]
    | alphanumeric b => cases h
  | alphanumeric a =>
    cases b with
    | numeric b => cases h
    | alphanumeric b =>
      have hcodes : compare (a.map Char.toNat) (b.map Char.toNat) = .eq := h
      have hmap : a.map Char.toNat = b.map Char.toNat := Std.LawfulEqCmp.eq_of_compare hcodes
      rw [(List.map_inj_right fun _ _ hcode => Char.toNat_inj.mp hcode).mp hmap]

theorem compareParts_swap (as bs : List PreRelease) :
    (compareParts as bs).swap = compareParts bs as := by
  induction as generalizing bs with
  | nil => cases bs <;> rfl
  | cons a as ih =>
    cases bs with
    | nil => rfl
    | cons b bs =>
      rw [compareParts, compareParts, Ordering.swap_then, ih, compare_swap]

theorem eq_of_compareParts_eq {as bs : List PreRelease} (h : compareParts as bs = .eq) :
    as = bs := by
  induction as generalizing bs with
  | nil =>
    cases bs with
    | nil => rfl
    | cons b bs => cases h
  | cons a as ih =>
    cases bs with
    | nil => cases h
    | cons b bs =>
      obtain ⟨hhead, htail⟩ := Ordering.then_eq_eq.mp h
      rw [eq_of_compare_eq hhead, ih htail]

theorem compareLists_swap (as bs : List PreRelease) :
    (compareLists as bs).swap = compareLists bs as := by
  cases as with
  | nil => cases bs <;> rfl
  | cons a as =>
    cases bs with
    | nil => rfl
    | cons b bs => exact compareParts_swap (a :: as) (b :: bs)

theorem eq_of_compareLists_eq {as bs : List PreRelease} (h : compareLists as bs = .eq) :
    as = bs := by
  cases as with
  | nil =>
    cases bs with
    | nil => rfl
    | cons b bs => cases h
  | cons a as =>
    cases bs with
    | nil => cases h
    | cons b bs => exact eq_of_compareParts_eq h

end PreRelease

namespace Version

theorem compare_swap (a b : Version) : (Version.compare a b).swap = Version.compare b a := by
  have hnumber (a b : Nat) : (compare a b).swap = compare b a := Std.OrientedCmp.eq_swap.symm
  simp only [Version.compare, Ordering.swap_then, hnumber, PreRelease.compareLists_swap]

theorem compare_eq_eq_iff {a b : Version} : Version.compare a b = .eq ↔ a = b := by
  constructor
  · intro h
    simp only [Version.compare, Ordering.then_eq_eq, Nat.compare_eq_eq] at h
    obtain ⟨hmajor, hminor, hpatch, hlists⟩ := h
    have hparts := PreRelease.eq_of_compareLists_eq hlists
    cases a
    cases b
    simp_all only
  · rintro rfl
    have hself := compare_swap a a
    revert hself
    cases Version.compare a a <;> decide

theorem not_isBelow_self (a : Version) : ¬a.isBelow a = true := by
  unfold isBelow
  rw [compare_eq_eq_iff.mpr rfl]
  decide

theorem isBelow_of_ne {a b : Version} (hne : a ≠ b) (hnot : ¬b.isBelow a = true) :
    a.isBelow b = true := by
  have hswap := compare_swap a b
  unfold isBelow at hnot ⊢
  cases hcompare : Version.compare a b with
  | lt => rfl
  | eq => exact absurd (compare_eq_eq_iff.mp hcompare) hne
  | gt =>
    rw [← hswap, hcompare] at hnot
    exact absurd rfl hnot

end Version

end ClusterUpgrade
