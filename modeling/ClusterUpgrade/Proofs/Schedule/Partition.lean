import ClusterUpgrade.Proofs.Schedule.Judging
import Mathlib.Data.List.Basic

/-!
How a plan divides the existing policies. Main statement: `classify_partitions`. Every policy
either objects to the plan, or has a fate of its own that depends on nothing but its state, its due
time and its version. The first objection in listing order is the error; without one, the policies
of each fate stand in the plan in listing order.

Objections are raised in listing order whatever their kind, so a version that names no release can
hide a conflict behind it: `classify_conflict_of_readable_front` and
`classify_unreadable_before_conflict`.
-/

namespace ClusterUpgrade

variable {target : Target} {desired : DesiredVersion} {deadline now : Instant}
  {upgrade : ExistingUpgrade} {upgrades others front rest : List ExistingUpgrade}

namespace ExistingUpgrade

/-- Why a policy forbids every plan, if it does. -/
def objection? (target : Target) (desired : DesiredVersion) (deadline : Instant)
    (upgrade : ExistingUpgrade) : Option UpgradeError :=
  match upgrade.state with
  | .started | .delayed =>
    match Release.version? upgrade.version with
    | none => some (.invalidVersion upgrade.version)
    | some version =>
      if version = desired.version then none
      else some (.conflict target desired.rawId upgrade.version)
  | .pending | .scheduled =>
    if upgrade.isDueBefore deadline ∧ Release.version? upgrade.version = none then
      some (.invalidVersion upgrade.version)
    else none
  | .completed | .cancelled | .unknown => none

/-- What becomes of a policy that does not object. -/
def fate (desired : DesiredVersion) (deadline : Instant) (upgrade : ExistingUpgrade) : Verdict :=
  match upgrade.state with
  | .started | .delayed => .keep
  | .pending | .scheduled =>
    if upgrade.isDueBefore deadline ∧
        Release.version? upgrade.version = some desired.version then .keep
    else .cancel
  | .completed | .cancelled | .unknown => .ignore

end ExistingUpgrade

open ExistingUpgrade

theorem DesiredVersion.isNamedBy_eq (id : String) :
    desired.isNamedBy id =
      (Release.version? id).elim (.error (.invalidVersion id)) fun version =>
        .ok (version == desired.version) := by
  unfold isNamedBy Release.version
  cases Release.version? id <;> rfl

theorem judge_eq :
    judge target desired deadline upgrade =
      (upgrade.objection? target desired deadline).elim (.ok (upgrade.fate desired deadline))
        .error := by
  unfold judge objection? fate
  rw [DesiredVersion.isNamedBy_eq]
  cases upgrade.state with
  | started | delayed =>
    cases Release.version? upgrade.version with
    | none => rfl
    | some version =>
      by_cases hsame : version = desired.version
      · simp [PolicyState.isExecuting, hsame, bind, Except.bind, pure, Except.pure]
      · have hdiffers : (version == desired.version) = false := beq_eq_false_iff_ne.mpr hsame
        simp only [Option.elim, hdiffers, if_neg hsame]
        rfl
  | pending | scheduled =>
    cases upgrade.isDueBefore deadline with
    | false => rfl
    | true =>
      cases Release.version? upgrade.version with
      | none => rfl
      | some version =>
        by_cases hsame : version = desired.version <;>
          simp [PolicyState.isExecuting, PolicyState.isWaiting, hsame, bind, Except.bind, pure,
            Except.pure]
  | completed | cancelled | unknown => rfl

theorem fate_eq_verdict (h : upgrade.objection? target desired deadline = none) :
    upgrade.fate desired deadline = upgrade.verdict desired deadline := by
  have hjudge : judge target desired deadline upgrade = .ok (upgrade.fate desired deadline) := by
    rw [judge_eq, h]
    rfl
  exact (judge_eq_ok hjudge).2

theorem ExistingUpgrade.verdict_eq_keep_iff :
    upgrade.verdict desired deadline = .keep ↔ upgrade.isKept desired deadline = true := by
  unfold verdict
  by_cases hkept : upgrade.isKept desired deadline = true
  · simp [hkept]
  · by_cases hstale : upgrade.isStale desired deadline = true <;> simp [hkept, hstale]

theorem ExistingUpgrade.verdict_eq_cancel_iff :
    upgrade.verdict desired deadline = .cancel ↔ upgrade.isStale desired deadline = true := by
  unfold verdict
  by_cases hkept : upgrade.isKept desired deadline = true
  · simp [hkept, isStale_eq_false_of_isKept hkept]
  · by_cases hstale : upgrade.isStale desired deadline = true <;> simp [hkept, hstale]

/-! ### Plans -/

/-- The policies by their fates, each kind in listing order. -/
def divided (desired : DesiredVersion) (deadline : Instant) (upgrades : List ExistingUpgrade) :
    Plan where
  keep := upgrades.filter fun upgrade => upgrade.fate desired deadline = .keep
  cancel := upgrades.filter fun upgrade => upgrade.fate desired deadline = .cancel
  ignored := upgrades.countP fun upgrade => upgrade.fate desired deadline = .ignore

theorem planOf_eq_divided
    (h : ∀ upgrade ∈ upgrades, upgrade.objection? target desired deadline = none) :
    planOf desired deadline upgrades = divided desired deadline upgrades := by
  have hfate : ∀ upgrade ∈ upgrades, ∀ found,
      (upgrade.fate desired deadline = found ↔ upgrade.verdict desired deadline = found) :=
    fun upgrade hmem found => by rw [fate_eq_verdict (h upgrade hmem)]
  unfold planOf divided
  congr 1
  · apply List.filter_congr
    intro upgrade hmem
    simp [hfate upgrade hmem, verdict_eq_keep_iff]
  · apply List.filter_congr
    intro upgrade hmem
    simp [hfate upgrade hmem, verdict_eq_cancel_iff]
  · apply List.countP_congr
    intro upgrade hmem
    simp [hfate upgrade hmem]

theorem planBefore_eq_error_iff {error : UpgradeError} :
    planBefore target desired deadline upgrades = .error error ↔
      upgrades.findSome? (objection? target desired deadline) = some error := by
  induction upgrades with
  | nil => simp [planBefore, pure, Except.pure]
  | cons upgrade rest ih =>
    rw [List.findSome?_cons, planBefore, judge_eq]
    cases upgrade.objection? target desired deadline with
    | some objection => simp [bind, Except.bind]
    | none =>
      rw [← ih]
      cases planBefore target desired deadline rest <;> simp [bind, Except.bind, pure, Except.pure]

theorem planBefore_eq_divided_iff {plan : Plan} :
    planBefore target desired deadline upgrades = .ok plan ↔
      (∀ upgrade ∈ upgrades, upgrade.objection? target desired deadline = none) ∧
        plan = divided desired deadline upgrades := by
  have hjudged : ∀ upgrade : ExistingUpgrade,
      (∃ found, judge target desired deadline upgrade = .ok found) ↔
        upgrade.objection? target desired deadline = none := by
    intro upgrade
    rw [judge_eq]
    cases upgrade.objection? target desired deadline <;> simp
  simp only [planBefore_eq_ok_iff, hjudged]
  refine and_congr_right fun hnone => ?_
  rw [planOf_eq_divided hnone]

theorem divided_perm (h : upgrades.Perm others) :
    (divided desired deadline upgrades).keep.Perm (divided desired deadline others).keep ∧
      (divided desired deadline upgrades).cancel.Perm (divided desired deadline others).cancel ∧
      (divided desired deadline upgrades).ignored = (divided desired deadline others).ignored :=
  ⟨h.filter _, h.filter _, h.countP_eq _⟩

/-- **The partition.** In another order of the policies there is a plan just the same, and it has
the same parts up to order. -/
theorem classify_partitions (target : Target) (upgrades : List ExistingUpgrade)
    (desired : DesiredVersion) (now : Instant) :
    let deadline := now.addMinutes scheduleWindow
    (∀ error, classify target upgrades desired now = .error error ↔
      upgrades.findSome? (objection? target desired deadline) = some error) ∧
    (∀ plan, classify target upgrades desired now = .ok plan ↔
      (∀ upgrade ∈ upgrades, upgrade.objection? target desired deadline = none) ∧
        plan = divided desired deadline upgrades) ∧
    ∀ others, upgrades.Perm others → ∀ plan, classify target upgrades desired now = .ok plan →
      ∃ other, classify target others desired now = .ok other ∧ plan.keep.Perm other.keep ∧
        plan.cancel.Perm other.cancel ∧ plan.ignored = other.ignored := by
  refine ⟨fun error => planBefore_eq_error_iff, fun plan => planBefore_eq_divided_iff, ?_⟩
  intro others hperm plan hplan
  obtain ⟨hnone, rfl⟩ := planBefore_eq_divided_iff.mp hplan
  have hothers : ∀ upgrade ∈ others,
      upgrade.objection? target desired (now.addMinutes scheduleWindow) = none :=
    fun upgrade hmem => hnone upgrade (hperm.mem_iff.mpr hmem)
  exact ⟨_, planBefore_eq_divided_iff.mpr ⟨hothers, rfl⟩, divided_perm hperm⟩

/-! ### Conflicts among objections -/

theorem ExistingUpgrade.objection?_eq_conflict {inFlight : ExistingUpgrade} {version : Version}
    (hexecuting : inFlight.state.isExecuting = true)
    (hversion : Release.version? inFlight.version = some version)
    (hother : version ≠ desired.version) :
    inFlight.objection? target desired deadline =
      some (.conflict target desired.rawId inFlight.version) := by
  unfold objection?
  rw [hversion]
  cases hstate : inFlight.state with
  | started | delayed => exact if_neg hother
  | _ => simp [hstate, PolicyState.isExecuting] at hexecuting

/-- A policy objects to the plan because its version is another one or because it cannot be read. -/
theorem ExistingUpgrade.objection?_eq_some {error : UpgradeError}
    (h : upgrade.objection? target desired deadline = some error) :
    error = .conflict target desired.rawId upgrade.version ∨
      Release.version? upgrade.version = none ∧ error = .invalidVersion upgrade.version := by
  revert h
  unfold objection?
  cases upgrade.state with
  | started | delayed =>
    intro h
    cases hversion : Release.version? upgrade.version with
    | none =>
      rw [hversion] at h
      exact .inr ⟨rfl, (Option.some.inj h).symm⟩
    | some version =>
      by_cases hsame : version = desired.version
      · simp [hversion, hsame] at h
      · simp only [hversion, if_neg hsame] at h
        exact .inl (Option.some.inj h).symm
  | pending | scheduled =>
    intro h
    by_cases hasked : upgrade.isDueBefore deadline ∧ Release.version? upgrade.version = none
    · simp only [if_pos hasked] at h
      exact .inr ⟨hasked.2, (Option.some.inj h).symm⟩
    · simp [if_neg hasked] at h
  | completed | cancelled | unknown => intro h; cases h

/-- **Conflicts.** An upgrade in flight to another version is met with a conflict, unless a policy
listed in front of it has to be judged by a version that cannot be read. -/
theorem classify_conflict_of_readable_front {inFlight : ExistingUpgrade} {version : Version}
    (hexecuting : inFlight.state.isExecuting = true)
    (hversion : Release.version? inFlight.version = some version)
    (hother : version ≠ desired.version) :
    ∃ error, classify target (front ++ inFlight :: rest) desired now = .error error ∧
      ((∃ inProgress, error = .conflict target desired.rawId inProgress) ∨
        ∃ hidden ∈ front, Release.version? hidden.version = none ∧
          hidden.objection? target desired (now.addMinutes scheduleWindow) =
            some (.invalidVersion hidden.version) ∧ error = .invalidVersion hidden.version) := by
  let deadline := now.addMinutes scheduleWindow
  have hobjects : inFlight.objection? target desired deadline =
      some (.conflict target desired.rawId inFlight.version) :=
    objection?_eq_conflict hexecuting hversion hother
  cases hfront : front.findSome? (objection? target desired deadline) with
  | none =>
    refine ⟨_, planBefore_eq_error_iff.mpr ?_, .inl ⟨inFlight.version, rfl⟩⟩
    rw [List.findSome?_append, hfront, Option.none_or, List.findSome?_cons, hobjects]
  | some error =>
    refine ⟨error, planBefore_eq_error_iff.mpr ?_, ?_⟩
    · rw [List.findSome?_append, hfront, Option.some_or]
    obtain ⟨hidden, hmem, hhidden⟩ := List.exists_of_findSome?_eq_some hfront
    rcases objection?_eq_some hhidden with rfl | ⟨hunreadable, rfl⟩
    · exact .inl ⟨hidden.version, rfl⟩
    · exact .inr ⟨hidden, hmem, hunreadable, hhidden, rfl⟩

/-- The unreadable version in front belongs to a policy that is not due, so nobody asks for it. -/
theorem classify_conflict_behind_distant :
    let desired : DesiredVersion :=
      { rawId := "4.14.1", version := ⟨4, 14, 1, []⟩, channelGroup := none }
    let distant : ExistingUpgrade :=
      { policy := { id := "1", version := "garbage" }, status := { state := .scheduled } }
    let inFlight : ExistingUpgrade :=
      { policy := { id := "2", version := "4.13.9" }, status := { state := .delayed } }
    let other : ExistingUpgrade :=
      { policy := { id := "3", version := "garbage" }, status := { state := .started } }
    inFlight.state.isExecuting = true ∧
      Release.version? inFlight.version = some ⟨4, 13, 9, []⟩ ∧
      (⟨4, 13, 9, []⟩ : Version) ≠ desired.version ∧
      ∃ inProgress, classify (.cluster "123") [distant, inFlight, other] desired .epoch =
        .error (.conflict (.cluster "123") "4.14.1" inProgress) := by
  intro desired distant inFlight other
  have hversion : Release.version? inFlight.version = some ⟨4, 13, 9, []⟩ := by decide +kernel
  have hother : (⟨4, 13, 9, []⟩ : Version) ≠ desired.version := by decide
  refine ⟨rfl, hversion, hother, ?_⟩
  obtain ⟨error, herror, hcause⟩ :=
    @classify_conflict_of_readable_front (.cluster "123") desired .epoch [distant] [other] inFlight
      _ rfl hversion hother
  rcases hcause with ⟨inProgress, rfl⟩ | ⟨hidden, hmem, -, hobjects, -⟩
  · exact ⟨inProgress, herror⟩
  · obtain rfl := List.mem_singleton.mp hmem
    cases hobjects

/-- Of two upgrades in flight the first one names no release, and the conflict with the second one
goes unmentioned. -/
theorem classify_unreadable_before_conflict :
    let desired : DesiredVersion :=
      { rawId := "4.14.1", version := ⟨4, 14, 1, []⟩, channelGroup := none }
    let unreadable : ExistingUpgrade :=
      { policy := { id := "1", version := "garbage" }, status := { state := .started } }
    let inFlight : ExistingUpgrade :=
      { policy := { id := "2", version := "4.13.9" }, status := { state := .started } }
    inFlight.state = .started ∧ Release.version? inFlight.version = some ⟨4, 13, 9, []⟩ ∧
      (⟨4, 13, 9, []⟩ : Version) ≠ desired.version ∧
      classify (.cluster "123") [unreadable, inFlight] desired .epoch =
        .error (.invalidVersion "garbage") := by
  intro desired unreadable inFlight
  have hunreadable : Release.version? unreadable.version = none := by decide +kernel
  refine ⟨rfl, by decide +kernel, by decide, planBefore_eq_error_iff.mpr ?_⟩
  rw [List.findSome?_cons]
  simp only [objection?, hunreadable]
  rfl

end ClusterUpgrade
