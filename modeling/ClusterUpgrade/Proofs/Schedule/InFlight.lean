import ClusterUpgrade.Proofs.Schedule.CallOrder
import ClusterUpgrade.Proofs.Schedule.Judging

/-!
Upgrades that have begun. Main statement: `reconcile_sparesInFlight`. A pass judges everything that
it has read before it changes anything, so one upgrade in flight to another version, wherever it
stands, keeps a pass from every change; and what a pass deletes is still to come.
-/

namespace ClusterUpgrade

open Transcript

variable {pageSize : Nat} {request : UpgradeRequest} {now : Instant} {transcript : Transcript}
  {result : Except UpgradeError ReconcileOutcome}

/-- How a pass deals with what it observes: the listed policies that bear on the target, each with the
state that was fetched for it. -/
structure SparesInFlight (request : UpgradeRequest) (transcript : Transcript)
    (result : Except UpgradeError ReconcileOutcome) : Prop where
  observed_fetched : ∀ upgrade ∈ transcript.observed request.target,
    upgrade.policy ∈ transcript.listed ∧ request.target.covers upgrade.policy = true ∧
      (⟨.policyStatus request.target upgrade.id, .ok upgrade.status⟩ : RemoteExchange) ∈ transcript
  deleted_waiting : ∀ target policyId, .deletePolicy target policyId ∈ transcript.calls →
    target = request.target ∧ ∃ upgrade ∈ transcript.observed request.target,
      upgrade.id = policyId ∧ (upgrade.state = .pending ∨ upgrade.state = .scheduled)
  conflict_forbids : ∀ upgrade ∈ transcript.observed request.target,
    (upgrade.state = .started ∨ upgrade.state = .delayed) →
      request.desired.isNamedBy upgrade.version ≠ .ok true →
        (∃ error, result = .error error) ∧ ∀ call ∈ transcript.calls, call.isReading = true

theorem PolicyState.isWaiting_iff {state : PolicyState} :
    state.isWaiting = true ↔ state = .pending ∨ state = .scheduled := by
  cases state <;> simp [isWaiting]

theorem PolicyState.isExecuting_iff {state : PolicyState} :
    state.isExecuting = true ↔ state = .started ∨ state = .delayed := by
  cases state <;> simp [isExecuting]

theorem ExistingUpgrade.isConflicting_eq_true {desired : DesiredVersion} {upgrade : ExistingUpgrade}
    (hstate : upgrade.state = .started ∨ upgrade.state = .delayed)
    (hversion : desired.isNamedBy upgrade.version ≠ .ok true) :
    upgrade.isConflicting desired = true := by
  rw [isConflicting, PolicyState.isExecuting_iff.mpr hstate, Bool.true_and, Bool.not_eq_true']
  exact Bool.eq_false_iff.mpr (mt DesiredVersion.isMetBy_eq_true_iff.mp hversion)

theorem Previews.mem_of_mem_observed {target : Target} {desired : DesiredVersion}
    {result : Except UpgradeError Plan} (h : Previews pageSize target desired now transcript result)
    {upgrade : ExistingUpgrade} (hmem : upgrade ∈ transcript.observed target) :
    upgrade.policy ∈ transcript.covered target ∧
      (⟨.policyStatus target upgrade.id, .ok upgrade.status⟩ : RemoteExchange) ∈ transcript := by
  cases h with
  | unsupported hversion => cases hmem
  | unread hversion hread => exact Listing.mem_of_mem_observed hread hmem
  | read hversion hread hjudged => exact Listing.mem_of_mem_observed hread hmem

theorem Changes.isReading_eq_false {plan : Plan} (h : Changes request plan transcript result)
    {call : RemoteCall} (hcall : call ∈ transcript.calls) : call.isReading = false :=
  isReading_of_mem_changingCalls (h.calls_start.subset hcall)

theorem deletePolicy_mem_changingCalls_iff {gates : List VersionGate} {plan : Plan}
    {target : Target} {policyId : String} :
    .deletePolicy target policyId ∈ changingCalls request gates plan ↔
      target = request.target ∧ ∃ upgrade ∈ plan.cancel, upgrade.id = policyId := by
  have hgates : .deletePolicy target policyId ∉ gateCalls request gates ++ [request.creation] := by
    simp [gateCalls, agreementCalls, UpgradeRequest.dryRun, UpgradeRequest.creation]
  rw [changingCalls, List.mem_append, deletionCalls, List.map_map, List.mem_map]
  constructor
  · rintro (⟨upgrade, hmem, heq⟩ | hrest)
    · cases heq
      exact ⟨rfl, upgrade, hmem, rfl⟩
    · split at hrest
      · cases hrest
      · exact absurd hrest hgates
  · rintro ⟨rfl, upgrade, hmem, rfl⟩
    exact .inl ⟨upgrade, hmem, rfl⟩

namespace Reconciles

theorem mem_of_mem_observed (h : Reconciles pageSize request now transcript result)
    {upgrade : ExistingUpgrade} (hmem : upgrade ∈ transcript.observed request.target) :
    upgrade.policy ∈ transcript.covered request.target ∧
      (⟨.policyStatus request.target upgrade.id, .ok upgrade.status⟩ : RemoteExchange) ∈
        transcript := by
  cases h with
  | unplanned hplan => exact hplan.mem_of_mem_observed hmem
  | planned hplan hchange =>
    rw [Listing.observed_append fun call => hchange.isReading_eq_false] at hmem
    obtain ⟨hpolicy, hfetched⟩ := hplan.mem_of_mem_observed hmem
    refine ⟨?_, List.mem_append_left _ hfetched⟩
    rw [covered, listed_append, List.filter_append]
    exact List.mem_append_left _ hpolicy

theorem isWaiting_of_deleted (h : Reconciles pageSize request now transcript result)
    {target : Target} {policyId : String} (hcall : .deletePolicy target policyId ∈ transcript.calls) :
    target = request.target ∧ ∃ upgrade ∈ transcript.observed request.target,
      upgrade.id = policyId ∧ upgrade.state.isWaiting = true := by
  cases h with
  | unplanned hplan => cases hplan.isReading_of_mem_calls hcall
  | @planned front rest plan _ hplan hchange =>
    obtain ⟨-, -, hclassify⟩ := hplan.of_ok
    rw [calls_append] at hcall
    rcases List.mem_append.mp hcall with hfront | hrest
    · cases hplan.isReading_of_mem_calls hfront
    rw [Listing.observed_append fun call => hchange.isReading_eq_false]
    obtain ⟨htarget, upgrade, hcancelled, hid⟩ :=
      deletePolicy_mem_changingCalls_iff.mp (hchange.calls_start.subset hrest)
    obtain ⟨hobserved, hwaiting⟩ := isWaiting_of_mem_cancel hclassify hcancelled
    exact ⟨htarget, upgrade, hobserved, hid, hwaiting⟩

/-- A pass that observes a conflict has no plan, so it ends with its reading. -/
theorem unplanned_of_isConflicting (h : Reconciles pageSize request now transcript result)
    {upgrade : ExistingUpgrade} (hmem : upgrade ∈ transcript.observed request.target)
    (hconflict : upgrade.isConflicting request.desired = true) :
    (∃ error, result = .error error) ∧ ∀ call ∈ transcript.calls, call.isReading = true := by
  cases h with
  | unplanned hplan => exact ⟨⟨_, rfl⟩, fun call => hplan.isReading_of_mem_calls⟩
  | planned hplan hchange =>
    -- What is observed is known before the first change, and a plan for it would exclude the conflict.
    obtain ⟨-, -, hclassify⟩ := hplan.of_ok
    rw [Listing.observed_append fun call => hchange.isReading_eq_false] at hmem
    cases hconflict.symm.trans (isConflicting_eq_false_of_classify hclassify hmem)

end Reconciles

/-- **Upgrades in flight are left alone.** For every remote side, whatever its answers. -/
theorem reconcile_sparesInFlight {σ : Type}
    (respond : σ → (call : RemoteCall) → call.Reply × σ) (remote : σ) (pageSize : Nat)
    (request : UpgradeRequest) (now : Instant) :
    let pass := (reconcile pageSize request now).run
    let record := (pass.play respond remote).1
    let transcript : Transcript := pass.transcript respond remote
    record.questions = transcript.calls ∧ SparesInFlight request transcript record.value := by
  intro pass record transcript
  have hpass : Reconciles pageSize request now transcript record.value :=
    reconciles_of_runs (pass.runs_transcript remote)
  refine ⟨(pass.map_fst_transcript remote).symm, ?_⟩
  refine { observed_fetched := ?_, deleted_waiting := ?_, conflict_forbids := ?_ }
  · intro upgrade hmem
    obtain ⟨hcovered, hfetched⟩ := hpass.mem_of_mem_observed hmem
    obtain ⟨hlisted, hcovers⟩ := List.mem_filter.mp hcovered
    exact ⟨hlisted, hcovers, hfetched⟩
  · intro target policyId hcall
    obtain ⟨htarget, upgrade, hmem, hid, hwaiting⟩ := hpass.isWaiting_of_deleted hcall
    exact ⟨htarget, upgrade, hmem, hid, PolicyState.isWaiting_iff.mp hwaiting⟩
  · intro upgrade hmem hstate hversion
    exact hpass.unplanned_of_isConflicting hmem
      (ExistingUpgrade.isConflicting_eq_true hstate hversion)

end ClusterUpgrade
