import ClusterUpgrade.Schedule.Plan

/-!
What a plan says of the policies that it judges. Main statement: `planBefore_eq_ok_iff`, a plan exists
if every policy can be judged, and then it keeps and cancels exactly the policies for which a
condition on their state, due time and version holds.
-/

namespace ClusterUpgrade

variable {target : Target} {desired : DesiredVersion} {deadline : Instant}
  {upgrade : ExistingUpgrade} {upgrades : List ExistingUpgrade}

/-- Whether a release id names the desired version; one that names no version does not. -/
def DesiredVersion.isMetBy (desired : DesiredVersion) (id : String) : Bool :=
  (desired.isNamedBy id).toOption.getD false

theorem DesiredVersion.isMetBy_eq_true_iff {id : String} :
    desired.isMetBy id = true ↔ desired.isNamedBy id = .ok true := by
  unfold isMetBy
  cases desired.isNamedBy id with
  | error error => simp [Except.toOption]
  | ok named => simp [Except.toOption]

namespace ExistingUpgrade

/-- Whether an upgrade has begun that does not bring the desired version. -/
def isConflicting (desired : DesiredVersion) (upgrade : ExistingUpgrade) : Bool :=
  upgrade.state.isExecuting && !desired.isMetBy upgrade.version

/-- Whether an upgrade brings the desired version and has begun or begins before the deadline. -/
def isKept (desired : DesiredVersion) (deadline : Instant) (upgrade : ExistingUpgrade) : Bool :=
  (upgrade.state.isExecuting || (upgrade.state.isWaiting && upgrade.isDueBefore deadline))
    && desired.isMetBy upgrade.version

/-- Whether an upgrade is still to come and is too late or brings another version. -/
def isStale (desired : DesiredVersion) (deadline : Instant) (upgrade : ExistingUpgrade) : Bool :=
  upgrade.state.isWaiting && !(upgrade.isDueBefore deadline && desired.isMetBy upgrade.version)

def verdict (desired : DesiredVersion) (deadline : Instant) (upgrade : ExistingUpgrade) : Verdict :=
  if upgrade.isKept desired deadline then .keep
  else if upgrade.isStale desired deadline then .cancel
  else .ignore

theorem isExecuting_eq_false_of_isWaiting (hwaiting : upgrade.state.isWaiting = true) :
    upgrade.state.isExecuting = false := by
  cases hstate : upgrade.state <;> simp_all [PolicyState.isWaiting, PolicyState.isExecuting]

theorem isStale_eq_false_of_isKept (hkept : upgrade.isKept desired deadline = true) :
    upgrade.isStale desired deadline = false := by
  obtain ⟨hlive, hmet⟩ := Bool.and_eq_true_iff.mp hkept
  rw [isStale, hmet, Bool.and_true]
  rcases Bool.or_eq_true_iff.mp hlive with hexecuting | hdue
  · cases hwaiting : upgrade.state.isWaiting with
    | false => rfl
    | true => cases (isExecuting_eq_false_of_isWaiting hwaiting).symm.trans hexecuting
  · rw [(Bool.and_eq_true_iff.mp hdue).2, Bool.not_true, Bool.and_false]

theorem isLive_of_isKept (hkept : upgrade.isKept desired deadline = true) :
    upgrade.state.isLive = true := by
  obtain ⟨hlive, -⟩ := Bool.and_eq_true_iff.mp hkept
  rw [PolicyState.isLive, Bool.or_eq_true]
  rcases Bool.or_eq_true_iff.mp hlive with hexecuting | hdue
  · exact .inr hexecuting
  · exact .inl (Bool.and_eq_true_iff.mp hdue).1

theorem isKept_of_isLive (hconflict : upgrade.isConflicting desired = false)
    (hstale : upgrade.isStale desired deadline = false) (hlive : upgrade.state.isLive = true) :
    upgrade.isKept desired deadline = true := by
  unfold isConflicting at hconflict
  unfold isStale at hstale
  unfold isKept
  rcases Bool.or_eq_true_iff.mp hlive with hwaiting | hexecuting
  · rw [hwaiting, Bool.true_and, Bool.not_eq_false', Bool.and_eq_true] at hstale
    rw [hwaiting, hstale.1, hstale.2, Bool.and_true, Bool.and_true, Bool.or_true]
  · rw [hexecuting, Bool.true_and, Bool.not_eq_false'] at hconflict
    rw [hexecuting, hconflict, Bool.true_or, Bool.and_true]

end ExistingUpgrade

open ExistingUpgrade

/-- A policy that is judged at all conflicts with nothing, and the verdict is the one that its state,
due time and version call for. -/
theorem judge_eq_ok {found : Verdict} (h : judge target desired deadline upgrade = .ok found) :
    upgrade.isConflicting desired = false ∧ found = upgrade.verdict desired deadline := by
  unfold judge at h
  unfold verdict isKept isStale isConflicting DesiredVersion.isMetBy
  cases hexecuting : upgrade.state.isExecuting with
  | true =>
    rw [if_pos hexecuting] at h
    cases hnamed : desired.isNamedBy upgrade.version with
    | error error =>
      rw [hnamed] at h
      cases h
    | ok named =>
      rw [hnamed] at h
      cases named with
      | false => cases h
      | true =>
        cases h
        exact ⟨rfl, rfl⟩
  | false =>
    rw [hexecuting, if_neg Bool.false_ne_true] at h
    refine ⟨rfl, ?_⟩
    cases hwaiting : upgrade.state.isWaiting with
    | false =>
      rw [hwaiting, if_neg Bool.false_ne_true] at h
      cases h
      rfl
    | true =>
      rw [if_pos hwaiting] at h
      cases hdue : upgrade.isDueBefore deadline with
      | false =>
        rw [hdue, if_neg Bool.false_ne_true] at h
        cases h
        rfl
      | true =>
        rw [if_pos hdue] at h
        cases hnamed : desired.isNamedBy upgrade.version with
        | error error =>
          rw [hnamed] at h
          cases h
        | ok named =>
          rw [hnamed] at h
          cases named <;> cases h <;> rfl

/-- Judging fails on a version that cannot be read, or on an upgrade in flight to another one. -/
theorem judge_eq_error {error : UpgradeError}
    (h : judge target desired deadline upgrade = .error error) :
    desired.isNamedBy upgrade.version = .error error ∨
      (upgrade.isConflicting desired = true ∧
        error = .conflict target desired.rawId upgrade.version) := by
  unfold judge at h
  unfold ExistingUpgrade.isConflicting DesiredVersion.isMetBy
  cases hnamed : desired.isNamedBy upgrade.version with
  | error cause =>
    rw [hnamed] at h
    cases hexecuting : upgrade.state.isExecuting with
    | true =>
      rw [hexecuting] at h
      cases h
      exact .inl rfl
    | false =>
      rw [hexecuting, if_neg Bool.false_ne_true] at h
      split at h
      · split at h
        · cases h
          exact .inl rfl
        · cases h
      · cases h
  | ok isNamed =>
    rw [hnamed] at h
    cases hexecuting : upgrade.state.isExecuting with
    | true =>
      rw [hexecuting] at h
      cases isNamed with
      | true => cases h
      | false =>
        cases h
        exact .inr ⟨rfl, rfl⟩
    | false =>
      rw [hexecuting, if_neg Bool.false_ne_true] at h
      split at h
      · split at h <;> cases h
      · cases h

theorem judge_of_isKept (h : upgrade.isKept desired deadline = true) :
    judge target desired deadline upgrade = .ok .keep := by
  obtain ⟨hlive, hmet⟩ := Bool.and_eq_true_iff.mp h
  have hnamed := DesiredVersion.isMetBy_eq_true_iff.mp hmet
  unfold judge
  rw [hnamed]
  cases hexecuting : upgrade.state.isExecuting with
  | true => rfl
  | false =>
    rw [hexecuting, Bool.false_or, Bool.and_eq_true] at hlive
    rw [hlive.1, hlive.2]
    rfl

theorem judge_of_not_isLive (h : upgrade.state.isLive = false) :
    judge target desired deadline upgrade = .ok .ignore := by
  obtain ⟨hwaiting, hexecuting⟩ := Bool.or_eq_false_iff.mp h
  unfold judge
  rw [hexecuting, hwaiting]
  rfl

/-- The plan for policies that can all be judged. -/
def planOf (desired : DesiredVersion) (deadline : Instant) (upgrades : List ExistingUpgrade) : Plan :=
  { keep := upgrades.filter (isKept desired deadline)
    cancel := upgrades.filter (isStale desired deadline)
    ignored := upgrades.countP fun upgrade => upgrade.verdict desired deadline == .ignore }

theorem planOf_cons :
    planOf desired deadline (upgrade :: upgrades) =
      (planOf desired deadline upgrades).add upgrade (upgrade.verdict desired deadline) := by
  unfold planOf verdict
  cases hkept : upgrade.isKept desired deadline with
  | true => simp [hkept, isStale_eq_false_of_isKept hkept, Plan.add]
  | false =>
    cases hstale : upgrade.isStale desired deadline with
    | true => simp [hkept, hstale, Plan.add]
    | false => simp [hkept, hstale, Plan.add]

/-- **The plan.** It exists if every policy can be judged, in whatever order they stand. -/
theorem planBefore_eq_ok_iff {plan : Plan} :
    planBefore target desired deadline upgrades = .ok plan ↔
      (∀ upgrade ∈ upgrades, ∃ found, judge target desired deadline upgrade = .ok found) ∧
        plan = planOf desired deadline upgrades := by
  induction upgrades generalizing plan with
  | nil =>
    refine ⟨fun h => ?_, fun ⟨_, hplan⟩ => hplan ▸ rfl⟩
    cases h
    exact ⟨List.forall_mem_nil _, rfl⟩
  | cons upgrade rest ih =>
    rw [List.forall_mem_cons, planOf_cons, planBefore]
    cases hjudged : judge target desired deadline upgrade with
    | error error =>
      refine ⟨fun h => ?_, fun ⟨⟨⟨found, hfound⟩, _⟩, _⟩ => ?_⟩
      · cases h
      · cases hfound
    | ok found =>
      obtain ⟨-, rfl⟩ := judge_eq_ok hjudged
      cases hrest : planBefore target desired deadline rest with
      | error error =>
        refine ⟨fun h => ?_, fun ⟨⟨_, hall⟩, _⟩ => ?_⟩
        · cases h
        · cases hrest.symm.trans (ih.mpr ⟨hall, rfl⟩)
      | ok others =>
        obtain ⟨hall, rfl⟩ := ih.mp hrest
        refine ⟨fun h => ?_, fun ⟨_, hplan⟩ => hplan ▸ rfl⟩
        cases h
        exact ⟨⟨⟨_, rfl⟩, hall⟩, rfl⟩

theorem exists_judge_of_planBefore {error : UpgradeError}
    (h : planBefore target desired deadline upgrades = .error error) :
    ∃ upgrade ∈ upgrades, judge target desired deadline upgrade = .error error := by
  induction upgrades with
  | nil => cases h
  | cons upgrade rest ih =>
    rw [planBefore] at h
    cases hjudged : judge target desired deadline upgrade with
    | error cause =>
      rw [hjudged] at h
      cases h
      exact ⟨upgrade, List.mem_cons_self, hjudged⟩
    | ok verdict =>
      cases hrest : planBefore target desired deadline rest with
      | error cause =>
        rw [hjudged, hrest] at h
        cases h
        obtain ⟨other, hmem, hother⟩ := ih hrest
        exact ⟨other, List.mem_cons_of_mem upgrade hmem, hother⟩
      | ok plan =>
        rw [hjudged, hrest] at h
        cases h

theorem classify_eq_ok_iff {now : Instant} {plan : Plan} :
    classify target upgrades desired now = .ok plan ↔
      (∀ upgrade ∈ upgrades,
        ∃ found, judge target desired (now.addMinutes scheduleWindow) upgrade = .ok found) ∧
        plan = planOf desired (now.addMinutes scheduleWindow) upgrades :=
  planBefore_eq_ok_iff

theorem isConflicting_eq_false_of_classify {now : Instant} {plan : Plan}
    (h : classify target upgrades desired now = .ok plan) (hmem : upgrade ∈ upgrades) :
    upgrade.isConflicting desired = false := by
  obtain ⟨hall, -⟩ := classify_eq_ok_iff.mp h
  obtain ⟨found, hfound⟩ := hall upgrade hmem
  exact (judge_eq_ok hfound).1

theorem isWaiting_of_mem_cancel {now : Instant} {plan : Plan}
    (h : classify target upgrades desired now = .ok plan) (hmem : upgrade ∈ plan.cancel) :
    upgrade ∈ upgrades ∧ upgrade.state.isWaiting = true := by
  obtain ⟨-, rfl⟩ := classify_eq_ok_iff.mp h
  obtain ⟨hjudged, hstale⟩ := List.mem_filter.mp hmem
  exact ⟨hjudged, (Bool.and_eq_true_iff.mp hstale).1⟩

end ClusterUpgrade
