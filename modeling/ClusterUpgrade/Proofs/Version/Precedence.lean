import ClusterUpgrade.Proofs.Version.Grammar
import ClusterUpgrade.Proofs.Version.Order

/-!
Precedence of versions. Main statement: `compareIds_followsPrecedence`. Two ids compare by the
precedence of the versions that they name, which is a total order, and ids that compare equal are
ids of the same release.
-/

namespace ClusterUpgrade

namespace PreRelease

/-- Numbers compare by value and stand below texts, which compare by character. -/
inductive Precedes : PreRelease → PreRelease → Prop
  | numeric {a b : Nat} (h : a < b) : Precedes (.numeric a) (.numeric b)
  | mixed (value : Nat) (text : List Char) : Precedes (.numeric value) (.alphanumeric text)
  | alphanumeric {a b : List Char} (h : a < b) : Precedes (.alphanumeric a) (.alphanumeric b)

/-- Any parts stand below none. Otherwise the first parts that differ decide, and a list stands
below its proper extensions. -/
def ListPrecedes (as bs : List PreRelease) : Prop := as ≠ [] ∧ (bs = [] ∨ List.Lex Precedes as bs)

variable {a b c : PreRelease} {as bs cs : List PreRelease}

theorem compare_map_toNat_eq_lt_iff {s t : List Char} :
    compare (s.map Char.toNat) (t.map Char.toNat) = .lt ↔ s < t := by
  induction s generalizing t with
  | nil => cases t <;> simp
  | cons c s ih =>
    cases t with
    | nil => simp
    | cons d t =>
      have hchar : compare c.toNat d.toNat = .lt ↔ c < d := Nat.compare_eq_lt
      have hsame : compare c.toNat d.toNat = .eq ↔ c = d := Nat.compare_eq_eq.trans Char.toNat_inj
      rw [List.map_cons, List.map_cons, List.compare_cons_cons, Ordering.then_eq_lt, ih, hchar, hsame,
        List.cons_lt_cons_iff]

theorem compare_eq_lt_iff : PreRelease.compare a b = .lt ↔ a.Precedes b := by
  constructor
  · intro h
    cases a with
    | numeric a =>
      cases b with
      | numeric b => exact .numeric (Nat.compare_eq_lt.mp h)
      | alphanumeric b => exact .mixed a b
    | alphanumeric a =>
      cases b with
      | numeric b => cases h
      | alphanumeric b => exact .alphanumeric (compare_map_toNat_eq_lt_iff.mp h)
  · intro h
    cases h with
    | numeric h => exact Nat.compare_eq_lt.mpr h
    | mixed => rfl
    | alphanumeric h => exact compare_map_toNat_eq_lt_iff.mpr h

theorem compare_eq_eq_iff : PreRelease.compare a b = .eq ↔ a = b := by
  refine ⟨eq_of_compare_eq, ?_⟩
  rintro rfl
  have hself := compare_swap a a
  revert hself
  cases PreRelease.compare a a <;> decide

theorem compareParts_eq_lt_iff : compareParts as bs = .lt ↔ List.Lex Precedes as bs := by
  induction as generalizing bs with
  | nil => cases bs <;> simp [compareParts]
  | cons a as ih =>
    cases bs with
    | nil => simp [compareParts]
    | cons b bs =>
      rw [compareParts, Ordering.then_eq_lt, compare_eq_lt_iff, compare_eq_eq_iff, ih,
        List.cons_lex_cons_iff]

theorem compareLists_eq_lt_iff : compareLists as bs = .lt ↔ ListPrecedes as bs := by
  unfold ListPrecedes
  cases as with
  | nil => cases bs <;> simp [compareLists]
  | cons a as =>
    cases bs with
    | nil => simp [compareLists]
    | cons b bs =>
      have hparts : compareLists (a :: as) (b :: bs) = compareParts (a :: as) (b :: bs) := rfl
      rw [hparts, compareParts_eq_lt_iff]
      simp

theorem Precedes.trans (hab : a.Precedes b) (hbc : b.Precedes c) : a.Precedes c := by
  cases hab with
  | numeric hab =>
    cases hbc with
    | numeric hbc => exact .numeric (hab.trans hbc)
    | mixed => exact .mixed ..
  | mixed =>
    cases hbc with
    | alphanumeric => exact .mixed ..
  | alphanumeric hab =>
    cases hbc with
    | alphanumeric hbc => exact .alphanumeric (List.lt_trans hab hbc)

theorem ListPrecedes.trans (hab : ListPrecedes as bs) (hbc : ListPrecedes bs cs) :
    ListPrecedes as cs := by
  obtain ⟨has, hab⟩ := hab
  obtain ⟨hbs, hbc⟩ := hbc
  refine ⟨has, ?_⟩
  rcases hbc with hcs | hbc
  · exact .inl hcs
  · exact .inr (List.lex_trans Precedes.trans (hab.resolve_left hbs) hbc)

end PreRelease

namespace Version

variable {a b c : Version}

/-- Precedence of semantic versions. -/
def Precedes (a b : Version) : Prop :=
  a.major < b.major ∨ a.major = b.major ∧ (a.minor < b.minor ∨ a.minor = b.minor ∧
    (a.patch < b.patch ∨ a.patch = b.patch ∧ PreRelease.ListPrecedes a.preRelease b.preRelease))

theorem compare_eq_lt_iff : Version.compare a b = .lt ↔ a.Precedes b := by
  simp only [Version.compare, Ordering.then_eq_lt, Nat.compare_eq_lt, Nat.compare_eq_eq,
    PreRelease.compareLists_eq_lt_iff, Precedes]

theorem isBelow_iff : a.isBelow b = true ↔ a.Precedes b := by
  rw [isBelow, beq_iff_eq, compare_eq_lt_iff]

theorem compare_eq_gt_iff : Version.compare a b = .gt ↔ b.Precedes a := by
  rw [← compare_eq_lt_iff, ← compare_swap a b]
  cases Version.compare a b <;> decide

theorem Precedes.trans (hab : a.Precedes b) (hbc : b.Precedes c) : a.Precedes c := by
  unfold Precedes at *
  grind [PreRelease.ListPrecedes.trans]

end Version

namespace Release

/-- What is to be said of the ids of two versions, by how they compare. -/
structure ComparesAs (a b : String) (first second : Version) (ordering : Ordering) : Prop where
  forth : compareIds a b = .ok ordering
  back : compareIds b a = .ok ordering.swap
  lt_iff : ordering = .lt ↔ first.Precedes second
  gt_iff : ordering = .gt ↔ second.Precedes first
  eq_iff : ordering = .eq ↔ first = second
  same : ∀ group group', ∃ desired other, DesiredVersion.parse a group = .ok desired ∧
    DesiredVersion.parse b group' = .ok other ∧
    (ordering = .eq ↔ desired.isSameAs other = true) ∧
    (ordering = .eq ↔ desired.isNamedBy b = .ok true)

variable {a b c : String} {first second third : Version}

theorem compareIds_of_version (ha : version a = .ok first) (hb : version b = .ok second) :
    compareIds a b = .ok (Version.compare first second) := by
  rw [compareIds, ha, hb]
  rfl

theorem comparesAs_of_version (ha : version a = .ok first) (hb : version b = .ok second) :
    ComparesAs a b first second (Version.compare first second) where
  forth := compareIds_of_version ha hb
  back := by rw [compareIds_of_version hb ha, Version.compare_swap]
  lt_iff := Version.compare_eq_lt_iff
  gt_iff := Version.compare_eq_gt_iff
  eq_iff := Version.compare_eq_eq_iff
  same := by
    intro group group'
    refine ⟨⟨rawId a, first, group.filter (· ≠ "")⟩, ⟨rawId b, second, group'.filter (· ≠ "")⟩,
      DesiredVersion.parse_eq_ok_iff.mpr ⟨ha, rfl, rfl⟩,
      DesiredVersion.parse_eq_ok_iff.mpr ⟨hb, rfl, rfl⟩, ?_, ?_⟩
    · simp [Version.compare_eq_eq_iff, DesiredVersion.isSameAs]
    · rw [DesiredVersion.isNamedBy_eq_ok_true_iff, hb, Version.compare_eq_eq_iff, Except.ok.injEq,
        eq_comm]

theorem exists_version_of_compareIds {ordering : Ordering} (h : compareIds a b = .ok ordering) :
    ∃ first second, version a = .ok first ∧ version b = .ok second ∧
      Version.compare first second = ordering := by
  obtain ⟨first, ha, hrest⟩ := exists_of_bind_eq_ok h
  obtain ⟨second, hb, hcompare⟩ := exists_of_bind_eq_ok hrest
  exact ⟨first, second, ha, hb, Except.ok.inj hcompare⟩

theorem compareIds_eq_error_iff {error : UpgradeError} :
    compareIds a b = .error error ↔ version a = .error error ∨
      (∃ first, version a = .ok first) ∧ version b = .error error := by
  unfold compareIds
  cases version a with
  | error found => simp [bind, Except.bind]
  | ok first => cases version b <;> simp [bind, Except.bind, pure, Except.pure]

/-- Build parts do not count. -/
theorem compareIds_of_build {front build : List Char}
    (ha : (rawId a).toList = front ++ '+' :: build) (hb : (rawId b).toList = front)
    (hversion : version a = .ok first) : compareIds a b = .ok .eq := by
  have hspelled := version_eq_ok_iff.mp hversion
  rw [ha, Version.spells_append_build_iff, ← hb] at hspelled
  rw [compareIds_of_version hversion (version_eq_ok_iff.mpr hspelled.1),
    Version.compare_eq_eq_iff.mpr rfl]

/-- **Precedence.** Of two ids that name no version the first one is refused. -/
theorem compareIds_followsPrecedence (a b c : String) :
    (∀ first second, version a = .ok first → version b = .ok second →
      ∃ ordering, ComparesAs a b first second ordering) ∧
    (compareIds a b = .ok .lt → compareIds b c = .ok .lt → compareIds a c = .ok .lt) ∧
    (∀ first front build, version a = .ok first → (rawId a).toList = front ++ '+' :: build →
      (rawId b).toList = front → compareIds a b = .ok .eq) ∧
    ∀ error, compareIds a b = .error error ↔ version a = .error error ∨
      (∃ first, version a = .ok first) ∧ version b = .error error := by
  refine ⟨fun first second ha hb => ⟨_, comparesAs_of_version ha hb⟩, ?_,
    fun first front build hversion ha hb => compareIds_of_build ha hb hversion,
    fun error => compareIds_eq_error_iff⟩
  intro hab hbc
  obtain ⟨first, second, ha, hb, hless⟩ := exists_version_of_compareIds hab
  obtain ⟨second', third, hb', hc, hless'⟩ := exists_version_of_compareIds hbc
  obtain rfl : second = second' := Except.ok.inj (hb.symm.trans hb')
  have hprecedes := (Version.compare_eq_lt_iff.mp hless).trans (Version.compare_eq_lt_iff.mp hless')
  rw [compareIds_of_version ha hc, Version.compare_eq_lt_iff.mpr hprecedes]

/-- Numeric parts compare by value, and every candidate stands below the release. -/
theorem compareIds_followsPrecedence_candidates :
    (∃ ordering, ComparesAs "openshift-v4.14.0-rc.2-fast" "4.14.0-rc.11+build.7"
      ⟨4, 14, 0, [.alphanumeric ['r', 'c'], .numeric 2]⟩
      ⟨4, 14, 0, [.alphanumeric ['r', 'c'], .numeric 11]⟩ ordering) ∧
    compareIds "openshift-v4.14.0-rc.2-fast" "4.14" = .ok .lt ∧
    compareIds "4.14.0-rc.11+build.7" "4.14.0-rc.11" = .ok .eq := by
  have hsecond : version "openshift-v4.14.0-rc.2-fast" =
      .ok ⟨4, 14, 0, [.alphanumeric ['r', 'c'], .numeric 2]⟩ :=
    ok_of_toOption_eq_some (by decide +kernel)
  have heleventh : version "4.14.0-rc.11+build.7" =
      .ok ⟨4, 14, 0, [.alphanumeric ['r', 'c'], .numeric 11]⟩ :=
    ok_of_toOption_eq_some (by decide +kernel)
  have hless : compareIds "openshift-v4.14.0-rc.2-fast" "4.14.0-rc.11+build.7" = .ok .lt :=
    ok_of_toOption_eq_some (by decide +kernel)
  have hrelease : compareIds "4.14.0-rc.11+build.7" "4.14" = .ok .lt :=
    ok_of_toOption_eq_some (by decide +kernel)
  obtain ⟨hcompares, htrans, -⟩ :=
    compareIds_followsPrecedence "openshift-v4.14.0-rc.2-fast" "4.14.0-rc.11+build.7" "4.14"
  obtain ⟨-, -, hbuild, -⟩ :=
    compareIds_followsPrecedence "4.14.0-rc.11+build.7" "4.14.0-rc.11" "4.14"
  exact ⟨hcompares _ _ hsecond heleventh, htrans hless hrelease,
    hbuild _ "4.14.0-rc.11".toList "build.7".toList heleventh (by decide +kernel)
      (by decide +kernel)⟩

end Release

end ClusterUpgrade
