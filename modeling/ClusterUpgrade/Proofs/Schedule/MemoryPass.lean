import ClusterUpgrade.Proofs.Schedule.CallOrder
import ClusterUpgrade.Proofs.Schedule.Judging
import ClusterUpgrade.Proofs.Schedule.MemoryReading

/-!
A pass over a remote side in memory. Main statement: `reconcile_of_memory`, what a pass that ends well
leaves of the policies and what its outcome is.
-/

namespace ClusterUpgrade

open Transcript Dialogue

variable {pageSize : Nat} {request : UpgradeRequest} {now : Instant} {target : Target}
  {transcript : Transcript} {remote final : MemoryRemote}

namespace UpgradeRequest

/-- Whether a pass at an instant has to cancel a policy: it is in scope, still to come, and too late
or for another version. -/
def cancels (request : UpgradeRequest) (now : Instant) (upgrade : ExistingUpgrade) : Bool :=
  request.target.covers upgrade.policy
    && upgrade.isStale request.desired (now.addMinutes scheduleWindow)

/-- Whether a pass at an instant may rest on a policy. -/
def keeps (request : UpgradeRequest) (now : Instant) (upgrade : ExistingUpgrade) : Bool :=
  request.target.covers upgrade.policy
    && upgrade.isKept request.desired (now.addMinutes scheduleWindow)

end UpgradeRequest

namespace MemoryRemote

/-- The remote side without the policies that a pass cancels. -/
def cleared (request : UpgradeRequest) (now : Instant) (remote : MemoryRemote) : MemoryRemote :=
  { remote with policies := remote.policies.filter fun upgrade => !request.cancels now upgrade }

/-- The policy that a request creates, as the remote side holds it. -/
def created (request : UpgradeRequest) (remote : MemoryRemote) : ExistingUpgrade :=
  { policy := remote.newPolicy request.target (.manual request.desired.rawId)
    status := { state := .scheduled } }

end MemoryRemote

theorem covers_newPolicy {draft : PolicyDraft} :
    target.covers (remote.newPolicy target draft) = true := by
  unfold MemoryRemote.newPolicy Target.covers
  cases target with
  | cluster clusterId => rfl
  | nodePool clusterId pool => exact beq_self_eq_true pool

theorem covers_created : request.target.covers (remote.created request).policy = true :=
  covers_newPolicy

/-! ### Effects -/

theorem policies_of_deletions {policyIds : List String} (hsettled : transcript.Settled)
    (hcalls : transcript.calls = deletionCalls target policyIds)
    (hanswered : Answered MemoryRemote.respond remote transcript final) :
    final = { remote with
      policies := remote.policies.filter fun upgrade => upgrade.id ∉ policyIds } := by
  induction policyIds generalizing transcript remote with
  | nil =>
    obtain rfl := List.map_eq_nil_iff.mp hcalls
    obtain rfl : final = remote := hanswered
    simp
  | cons policyId rest ih =>
    obtain ⟨⟨call, reply⟩, others, rfl, hcall, hothers⟩ := List.map_eq_cons_iff.mp hcalls
    obtain rfl : call = .deletePolicy target policyId := hcall
    obtain ⟨hdeletion, hsettled⟩ := settled_cons_iff.mp hsettled
    obtain ⟨answer, hanswer⟩ := RemoteExchange.ok_of_settled hdeletion rfl
    obtain ⟨hreply, hanswered⟩ := hanswered
    rw [MemoryRemote.respond_of_ok (hreply.symm.trans hanswer)] at hanswered
    rw [ih hsettled hothers hanswered]
    simp only [MemoryRemote.perform, MemoryRemote.removePolicy, List.filter_filter, List.mem_cons,
      not_or]
    congr 2
    funext upgrade
    by_cases hid : upgrade.id = policyId <;> simp [hid]

/-- To resolve gates changes no policies. -/
theorem eq_of_resolvesGates {found : Except UpgradeError (List String)}
    (hgates : ResolvesGates request transcript found)
    (hanswered : Answered MemoryRemote.respond remote transcript final) : final = remote := by
  refine (MemoryRemote.answered_of_unchanging (fun call hcall => ?_) hanswered).1
  rcases List.mem_cons.mp (hgates.calls_start.subset hcall) with rfl | hagreement
  · exact ⟨rfl, rfl⟩
  · obtain ⟨gate, -, rfl⟩ := List.mem_map.mp hagreement
    exact ⟨rfl, rfl⟩

theorem addPolicy_of_creation {policy : UpgradePolicy}
    (hanswered : Answered MemoryRemote.respond remote [⟨request.creation, .ok policy⟩] final) :
    policy = (remote.created request).policy ∧
      final = remote.addPolicy (remote.created request).policy := by
  obtain ⟨hreply, hfinal⟩ := answered_singleton_iff.mp hanswered
  have hperformed := MemoryRemote.respond_of_ok hreply.symm
  rw [hperformed] at hreply hfinal
  cases hreply
  exact ⟨rfl, hfinal⟩

/-- Where ids are unique, exactly the policies that a pass cancels have the id of one of them. -/
theorem id_mem_cancelled_iff (hids : (remote.policies.map ExistingUpgrade.id).Nodup)
    {upgrade : ExistingUpgrade} (hmem : upgrade ∈ remote.policies) :
    upgrade.id ∈ (planOf request.desired (now.addMinutes scheduleWindow)
        (remote.covered request.target)).cancel.map ExistingUpgrade.id ↔
      request.cancels now upgrade = true := by
  rw [planOf, List.mem_map, UpgradeRequest.cancels, Bool.and_eq_true]
  constructor
  -- Another policy of the same id would be deleted, too; there is none.
  · rintro ⟨other, hother, hid⟩
    obtain ⟨hcovered, hstale⟩ := List.mem_filter.mp hother
    obtain ⟨hpolicy, hcovers⟩ := List.mem_filter.mp hcovered
    obtain rfl := List.inj_on_of_nodup_map hids hpolicy hmem hid
    exact ⟨hcovers, hstale⟩
  · rintro ⟨hcovers, hstale⟩
    have hcovered : upgrade ∈ remote.covered request.target := List.mem_filter.mpr ⟨hmem, hcovers⟩
    exact ⟨upgrade, List.mem_filter.mpr ⟨hcovered, hstale⟩, rfl⟩

theorem filter_not_mem_cancelled (hids : (remote.policies.map ExistingUpgrade.id).Nodup) :
    (remote.policies.filter fun upgrade => upgrade.id ∉
        (planOf request.desired (now.addMinutes scheduleWindow)
          (remote.covered request.target)).cancel.map ExistingUpgrade.id) =
      (remote.cleared request now).policies := by
  apply List.filter_congr
  intro upgrade hmem
  simp [id_mem_cancelled_iff hids hmem]

theorem cleared_of_deletions (hids : (remote.policies.map ExistingUpgrade.id).Nodup)
    (hsettled : transcript.Settled)
    (hcalls : transcript.calls = deletionCalls target
      ((planOf request.desired (now.addMinutes scheduleWindow)
        (remote.covered request.target)).cancel.map ExistingUpgrade.id))
    (hanswered : Answered MemoryRemote.respond remote transcript final) :
    final = remote.cleared request now := by
  have hpolicies := policies_of_deletions hsettled hcalls hanswered
  rwa [filter_not_mem_cancelled hids] at hpolicies

theorem isSatisfied_planOf_iff :
    (planOf request.desired (now.addMinutes scheduleWindow)
        (remote.covered request.target)).isSatisfied = true ↔
      ∃ upgrade ∈ remote.policies, request.keeps now upgrade = true := by
  rw [Plan.isSatisfied, Bool.not_eq_true', List.isEmpty_eq_false_iff_exists_mem]
  apply exists_congr
  intro upgrade
  rw [planOf, List.mem_filter, MemoryRemote.covered, List.mem_filter, and_assoc,
    UpgradeRequest.keeps, Bool.and_eq_true]

/-- A pass at an instant gets to a plan, if its calls allow it. -/
structure MemoryRemote.IsPlannable (request : UpgradeRequest) (now : Instant)
    (remote : MemoryRemote) : Prop where
  supported : ∃ version, Release.supportedVersion request.desired.rawId = .ok version
  judged : ∀ upgrade ∈ remote.covered request.target, ∃ found,
    judge request.target request.desired (now.addMinutes scheduleWindow) upgrade = .ok found

theorem Previews.unchanged {desired : DesiredVersion} {result : Except UpgradeError Plan}
    (h : Previews pageSize target desired now transcript result)
    (hanswered : Answered MemoryRemote.respond remote transcript final) : final = remote := by
  have hreading : ∀ call ∈ transcript.calls, call.isReading = true :=
    fun call => h.isReading_of_mem_calls
  exact (MemoryRemote.answered_of_reading hreading hanswered).1

theorem previews_of_memory (hremote : remote.IsFaithful) {plan : Plan}
    (h : Previews pageSize request.target request.desired now transcript (.ok plan))
    (hanswered : Answered MemoryRemote.respond remote transcript final) :
    final = remote ∧ remote.IsPlannable request now ∧
      plan = planOf request.desired (now.addMinutes scheduleWindow)
        (remote.covered request.target) := by
  cases h with
  | read hversion hread hjudged =>
    obtain ⟨hfinal, hfound⟩ := Listing.upgrades_of_memory hremote hread hanswered
    rw [hfound] at hjudged
    obtain ⟨hall, hplan⟩ := classify_eq_ok_iff.mp hjudged
    exact ⟨hfinal, ⟨⟨_, hversion⟩, hall⟩, hplan⟩

theorem previews_of_isPlannable (hremote : remote.IsFaithful)
    (hreads : ∀ call : RemoteCall, call.isReading = true → remote.failure? call = none)
    (hplannable : remote.IsPlannable request now) {result : Except UpgradeError Plan}
    (h : Previews pageSize request.target request.desired now transcript result)
    (hanswered : Answered MemoryRemote.respond remote transcript final) :
    final = remote ∧ result = .ok (planOf request.desired (now.addMinutes scheduleWindow)
      (remote.covered request.target)) := by
  cases h with
  | unsupported hunsupported =>
    obtain ⟨version, hversion⟩ := hplannable.supported
    cases hunsupported.symm.trans hversion
  | unread _ hread =>
    obtain ⟨call, -, hreading, hfails⟩ :=
      Listing.exists_failure_of_memory hremote hread hanswered
    exact absurd (hreads call hreading) hfails
  | read _ hread hjudged =>
    obtain ⟨hfinal, hfound⟩ := Listing.upgrades_of_memory hremote hread hanswered
    rw [hfound, classify_eq_ok_iff.mpr ⟨hplannable.judged, rfl⟩] at hjudged
    exact ⟨hfinal, hjudged.symm⟩

/-! ### The whole pass -/

/-- **A pass over memory.** Every policy in scope can be judged, and what is cancelled is gone; then
either some policy was kept, or none was and a new one stands at the end. -/
theorem reconcile_of_memory (hremote : remote.IsFaithful) {outcome : ReconcileOutcome}
    (h : (reconcile pageSize request now).Runs transcript (.ok outcome))
    (hanswered : Answered MemoryRemote.respond remote transcript final) :
    (∀ upgrade ∈ remote.covered request.target, ∃ found,
      judge request.target request.desired (now.addMinutes scheduleWindow) upgrade = .ok found) ∧
    ((final = remote.cleared request now ∧
        ∃ upgrade ∈ remote.policies, request.keeps now upgrade = true) ∨
      (final = (remote.cleared request now).addPolicy (remote.created request).policy ∧
        (¬∃ upgrade ∈ remote.policies, request.keeps now upgrade = true) ∧
        ∃ cancelled acknowledged,
          outcome = .scheduled (remote.created request).policy cancelled acknowledged)) := by
  cases reconciles_of_runs h with
  | planned hplan hchange =>
    obtain ⟨middle, hreading, hchanges⟩ := answered_append_iff.mp hanswered
    obtain ⟨hmiddle, ⟨-, hall⟩, rfl⟩ := previews_of_memory hremote hplan hreading
    rw [hmiddle] at hchanges
    refine ⟨hall, ?_⟩
    cases hchange with
    | satisfied hsettled hcancel hkeep =>
      exact .inl ⟨cleared_of_deletions hremote.ids_nodup hsettled hcancel hchanges,
        isSatisfied_planOf_iff.mp hkeep⟩
    | scheduled hsettled hcancel hkeep hgates =>
      obtain ⟨after, hdeletions, hrest⟩ := answered_append_iff.mp hchanges
      obtain ⟨resolved, hresolving, hcreation⟩ := answered_append_iff.mp hrest
      rw [eq_of_resolvesGates hgates hresolving,
        cleared_of_deletions hremote.ids_nodup hsettled hcancel hdeletions] at hcreation
      obtain ⟨hpolicy, hfinal⟩ := addPolicy_of_creation hcreation
      have hnone := mt isSatisfied_planOf_iff.mpr (Bool.eq_false_iff.mp hkeep)
      exact .inr ⟨hfinal, hnone, _, _, congrArg (ReconcileOutcome.scheduled · _ _) hpolicy⟩

end ClusterUpgrade
