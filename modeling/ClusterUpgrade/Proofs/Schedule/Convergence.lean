import Mathlib
import ClusterUpgrade.Proofs.Schedule.MemoryPass

/-!
Convergence. Main statement: `reconcile_converges`. A pass over a remote side in memory that ends
well leaves nothing to be done in scope but upgrades to the desired version, at least one of them in
time, and touches nothing besides what it cancels and creates.
-/

namespace ClusterUpgrade

variable {pageSize : Nat} {request : UpgradeRequest} {now : Instant} {remote final : MemoryRemote}

/-- What a remote side is like behind a pass at an instant, compared with what it was before. -/
structure Converged (request : UpgradeRequest) (now : Instant) (remote final : MemoryRemote) :
    Prop where
  /-- Whatever is still to come or under way in scope brings the desired version. -/
  live_named : ∀ upgrade ∈ final.policies, request.target.covers upgrade.policy = true →
    upgrade.state.isLive = true → request.desired.isNamedBy upgrade.version = .ok true
  exists_live : ∃ upgrade ∈ final.policies, request.target.covers upgrade.policy = true ∧
    request.desired.isNamedBy upgrade.version = .ok true ∧
    (upgrade.state.isExecuting = true ∨ (upgrade.state.isWaiting = true ∧
      ∃ due, upgrade.nextRun = some due ∧ due.isBefore (now.addMinutes scheduleWindow) = true))
  policies_eq : final.policies =
    (remote.policies.filter fun upgrade => !request.cancels now upgrade)
      ++ if remote.policies.any (request.keeps now) then [] else [remote.created request]

namespace UpgradeRequest

variable {upgrade : ExistingUpgrade}

theorem cancels_eq_false_of_keeps (hkeeps : request.keeps now upgrade = true) :
    request.cancels now upgrade = false := by
  have hkept := (Bool.and_eq_true_iff.mp hkeeps).2
  rw [cancels, ExistingUpgrade.isStale_eq_false_of_isKept hkept, Bool.and_false]

theorem isNamedBy_of_keeps (hkeeps : request.keeps now upgrade = true) :
    request.desired.isNamedBy upgrade.version = .ok true := by
  have hkept := (Bool.and_eq_true_iff.mp hkeeps).2
  exact DesiredVersion.isMetBy_eq_true_iff.mp (Bool.and_eq_true_iff.mp hkept).2

theorem due_of_keeps (hkeeps : request.keeps now upgrade = true) :
    upgrade.state.isExecuting = true ∨ (upgrade.state.isWaiting = true ∧
      ∃ due, upgrade.nextRun = some due ∧ due.isBefore (now.addMinutes scheduleWindow) = true) := by
  have hkept := (Bool.and_eq_true_iff.mp hkeeps).2
  rcases Bool.or_eq_true_iff.mp (Bool.and_eq_true_iff.mp hkept).1 with hexecuting | hwaiting
  · exact .inl hexecuting
  · obtain ⟨hstate, hdue⟩ := Bool.and_eq_true_iff.mp hwaiting
    exact .inr ⟨hstate, (Option.any_eq_true ..).mp hdue⟩

end UpgradeRequest

section Judged

variable (hjudged : ∀ upgrade ∈ remote.covered request.target, ∃ found,
  judge request.target request.desired (now.addMinutes scheduleWindow) upgrade = .ok found)
include hjudged

/-- Every policy that a pass leaves in scope is kept, unless it is past. -/
theorem keeps_of_mem_cleared {upgrade : ExistingUpgrade}
    (hmem : upgrade ∈ (remote.cleared request now).policies)
    (hcovers : request.target.covers upgrade.policy = true) (hlive : upgrade.state.isLive = true) :
    upgrade ∈ remote.policies ∧ request.keeps now upgrade = true := by
  obtain ⟨hpolicy, hcancels⟩ := List.mem_filter.mp hmem
  obtain ⟨found, hfound⟩ := hjudged upgrade (List.mem_filter.mpr ⟨hpolicy, hcovers⟩)
  rw [Bool.not_eq_true', UpgradeRequest.cancels, hcovers, Bool.true_and] at hcancels
  refine ⟨hpolicy, ?_⟩
  rw [UpgradeRequest.keeps, hcovers, Bool.true_and]
  exact ExistingUpgrade.isKept_of_isLive (judge_eq_ok hfound).1 hcancels hlive

theorem Converged.of_kept (hkept : ∃ upgrade ∈ remote.policies, request.keeps now upgrade = true) :
    Converged request now remote (remote.cleared request now) where
  live_named := by
    intro upgrade hmem hcovers hlive
    obtain ⟨-, hkeeps⟩ := keeps_of_mem_cleared hjudged hmem hcovers hlive
    exact UpgradeRequest.isNamedBy_of_keeps hkeeps
  exists_live := by
    obtain ⟨upgrade, hmem, hkeeps⟩ := hkept
    have hcancels := UpgradeRequest.cancels_eq_false_of_keeps hkeeps
    refine ⟨upgrade, List.mem_filter.mpr ⟨hmem, by simp [hcancels]⟩, ?_⟩
    exact ⟨(Bool.and_eq_true_iff.mp hkeeps).1, UpgradeRequest.isNamedBy_of_keeps hkeeps,
      UpgradeRequest.due_of_keeps hkeeps⟩
  policies_eq := by
    have hany : remote.policies.any (request.keeps now) = true := List.any_eq_true.mpr hkept
    rw [hany, if_pos rfl, List.append_nil]
    rfl

theorem Converged.of_created
    (hkept : ¬∃ upgrade ∈ remote.policies, request.keeps now upgrade = true)
    (hnamed : request.desired.isNamedBy request.desired.rawId = .ok true)
    (hclock : (remote.clock.addMinutes 1).isBefore (now.addMinutes scheduleWindow) = true) :
    Converged request now remote
      ((remote.cleared request now).addPolicy (remote.created request).policy) where
  live_named := by
    intro upgrade hmem hcovers hlive
    rcases List.mem_append.mp hmem with hmem | hmem
    · exact absurd ⟨upgrade, keeps_of_mem_cleared hjudged hmem hcovers hlive⟩ hkept
    · obtain rfl := List.mem_singleton.mp hmem
      exact hnamed
  exists_live := by
    refine ⟨remote.created request, List.mem_append_right _ List.mem_cons_self, ?_⟩
    exact ⟨covers_created, hnamed, .inr ⟨rfl, remote.clock.addMinutes 1, rfl, hclock⟩⟩
  policies_eq := by
    have hany : remote.policies.any (request.keeps now) = false :=
      Bool.eq_false_iff.mpr (mt List.any_eq_true.mp hkept)
    rw [hany, if_neg Bool.false_ne_true]
    rfl

end Judged

/-- **Convergence.** Whatever calls are made to fail, and whatever the policies are. -/
theorem reconcile_converges (hremote : remote.IsFaithful)
    (hnamed : request.desired.isNamedBy request.desired.rawId = .ok true)
    (hclock : (remote.clock.addMinutes 1).isBefore (now.addMinutes scheduleWindow) = true)
    {outcome : ReconcileOutcome}
    (hok : ((reconcile pageSize request now).run.play MemoryRemote.respond remote).1.value =
      .ok outcome) :
    Converged request now remote
      ((reconcile pageSize request now).run.play MemoryRemote.respond remote).2 := by
  obtain ⟨transcript, hruns, -, hanswered⟩ := Procedure.runs_of_play hok
  obtain ⟨hjudged, ⟨hfinal, hkept⟩ | ⟨hfinal, hkept, -⟩⟩ :=
    reconcile_of_memory hremote hruns hanswered
  · rw [hfinal]
    exact .of_kept hjudged hkept
  · rw [hfinal]
    exact .of_created hjudged hkept hnamed hclock

/-- A pass cancels the one policy that has no time to run at, and creates another one for it. -/
theorem converged_of_unscheduled_policy :
    let policy : UpgradePolicy := { id := "7", version := "4.14.2", kind := .platform }
    let remote : MemoryRemote :=
      { policies := [{ policy, status := { state := .scheduled } }], pageCap := some 1 }
    let version : Version := { major := 4, minor := 14, patch := 2, preRelease := [] }
    let request : UpgradeRequest :=
      { target := .cluster "alpha"
        desired := { rawId := "4.14.2", version, channelGroup := none } }
    Converged request .epoch remote
      ((reconcile 100 request .epoch).run.play MemoryRemote.respond remote).2 := by
  intro policy remote version request
  have hremote : remote.IsFaithful :=
    { cap_pos := fun cap hcap => by cases hcap; decide
      tellsTotal := ⟨rfl, by decide⟩
      ids_nodup := by decide }
  have hnamed : request.desired.isNamedBy request.desired.rawId = .ok true :=
    DesiredVersion.isMetBy_eq_true_iff.mp (by decide +kernel)
  have hclock : (remote.clock.addMinutes 1).isBefore (Instant.epoch.addMinutes scheduleWindow) =
      true := by decide
  have hok : ((reconcile 100 request .epoch).run.play MemoryRemote.respond remote).1.value =
      .ok (.scheduled (remote.created request).policy ["7"] []) := by cbv
  exact reconcile_converges hremote hnamed hclock hok

end ClusterUpgrade
