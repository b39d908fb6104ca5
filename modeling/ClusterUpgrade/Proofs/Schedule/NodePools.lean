import ClusterUpgrade.Proofs.Schedule.Draining
import ClusterUpgrade.Proofs.Schedule.InFlight

/-!
Passes for a node pool. Main statement: `nodePool_staysInPool`. Whatever a pass deletes, rests on or
reports as a conflict was listed and bears on its target, so for a node pool it names this pool or
no pool at all. Policies that move the cluster itself are out of reach as far as they name another
pool; one that names none is taken for a policy of the node pool.
-/

namespace ClusterUpgrade

open Transcript

variable {pageSize : Nat} {clusterId pool : String} {target : Target} {desired : DesiredVersion}
  {request : UpgradeRequest} {now deadline : Instant} {transcript : Transcript}
  {result : Except UpgradeError ReconcileOutcome}

/-- The policy is that of the node pool or of none. -/
def UpgradePolicy.NamesNoOther (pool : String) (policy : UpgradePolicy) : Prop :=
  ∀ named, policy.nodePoolId = some named → named = pool

/-- Policies that move the cluster itself are told from those of a node pool by naming another. -/
def TellsPlatformApart (pool : String) (policies : List UpgradePolicy) : Prop :=
  ∀ policy ∈ policies, policy.kind.isPlatform = true → ¬policy.NamesNoOther pool

/-- A pass deals only with listed policies of a sort. -/
structure ConcernsOnly (own : UpgradePolicy → Prop) (transcript : Transcript)
    (result : Except UpgradeError ReconcileOutcome) : Prop where
  deleted : ∀ target policyId, .deletePolicy target policyId ∈ transcript.calls →
    ∃ policy ∈ transcript.listed, policy.id = policyId ∧ own policy
  kept : ∀ upgrades cancelled, result = .ok (.alreadyScheduled upgrades cancelled) →
    ∀ upgrade ∈ upgrades, upgrade.policy ∈ transcript.listed ∧ own upgrade.policy
  conflicting : ∀ target requested version, result = .error (.conflict target requested version) →
    ∃ policy ∈ transcript.listed, policy.version = version ∧ own policy

theorem ConcernsOnly.imp {own wider : UpgradePolicy → Prop}
    (h : ConcernsOnly own transcript result)
    (hown : ∀ policy ∈ transcript.listed, own policy → wider policy) :
    ConcernsOnly wider transcript result := by
  refine { deleted := ?_, kept := ?_, conflicting := ?_ }
  · intro target policyId hcall
    obtain ⟨policy, hlisted, hid, hpolicy⟩ := h.deleted target policyId hcall
    exact ⟨policy, hlisted, hid, hown policy hlisted hpolicy⟩
  · intro upgrades cancelled hresult upgrade hmem
    obtain ⟨hlisted, hpolicy⟩ := h.kept upgrades cancelled hresult upgrade hmem
    exact ⟨hlisted, hown upgrade.policy hlisted hpolicy⟩
  · intro target requested version hresult
    obtain ⟨policy, hlisted, hversion, hpolicy⟩ := h.conflicting target requested version hresult
    exact ⟨policy, hlisted, hversion, hown policy hlisted hpolicy⟩

/-! ### Conflicts -/

theorem Release.version_ne_conflict {id requested inProgress : String} :
    Release.version id ≠ .error (.conflict target requested inProgress) := by
  unfold Release.version
  split <;> exact nofun

theorem DesiredVersion.isNamedBy_ne_conflict {id requested inProgress : String} :
    desired.isNamedBy id ≠ .error (.conflict target requested inProgress) := by
  intro hnamed
  unfold isNamedBy at hnamed
  cases hversion : Release.version id with
  | error error =>
    rw [hversion] at hnamed
    cases hnamed
    exact Release.version_ne_conflict hversion
  | ok version =>
    rw [hversion] at hnamed
    cases hnamed

theorem Release.supportedVersion_ne_conflict {id requested inProgress : String} :
    Release.supportedVersion id ≠ .error (.conflict target requested inProgress) := by
  intro hsupported
  unfold supportedVersion at hsupported
  cases hfound : Release.version id with
  | error error =>
    rw [hfound] at hsupported
    cases hsupported
    exact version_ne_conflict hfound
  | ok found =>
    cases hminimum : Release.version minimumSupported with
    | error error =>
      rw [hfound, hminimum] at hsupported
      cases hsupported
      exact version_ne_conflict hminimum
    | ok minimum =>
      rw [hfound, hminimum] at hsupported
      dsimp only [bind, Except.bind] at hsupported
      split at hsupported <;> cases hsupported

/-- A conflict reports the version of an existing upgrade that has begun. -/
theorem exists_conflicting_of_classify {upgrades : List ExistingUpgrade} {named : Target}
    {requested inProgress : String}
    (h : classify target upgrades desired now = .error (.conflict named requested inProgress)) :
    ∃ upgrade ∈ upgrades, upgrade.isConflicting desired = true ∧ upgrade.version = inProgress := by
  obtain ⟨upgrade, hmem, hjudged⟩ := exists_judge_of_planBefore h
  rcases judge_eq_error hjudged with hnamed | ⟨hconflict, herror⟩
  · exact absurd hnamed DesiredVersion.isNamedBy_ne_conflict
  · cases herror
    exact ⟨upgrade, hmem, hconflict, rfl⟩

namespace Reconciles

theorem mem_observed_of_kept {kept : List ExistingUpgrade} {cancelled : List String}
    (h : Reconciles pageSize request now transcript (.ok (.alreadyScheduled kept cancelled)))
    {upgrade : ExistingUpgrade} (hmem : upgrade ∈ kept) :
    upgrade ∈ transcript.observed request.target := by
  cases h with
  | planned hplan hchange =>
    obtain ⟨-, -, hclassify⟩ := hplan.of_ok
    obtain ⟨-, rfl⟩ := classify_eq_ok_iff.mp hclassify
    rw [Listing.observed_append fun call => hchange.isReading_eq_false]
    cases hchange with
    | satisfied => exact (List.mem_filter.mp hmem).1

theorem exists_observed_of_conflict {named : Target} {requested inProgress : String}
    (h : Reconciles pageSize request now transcript
      (.error (.conflict named requested inProgress))) :
    ∃ upgrade ∈ transcript.observed request.target,
      upgrade.isConflicting request.desired = true ∧ upgrade.version = inProgress := by
  rcases h.settled_or_breaksOff with hsettled | hbroken
  · generalize herror : UpgradeError.conflict named requested inProgress = error at h
    cases h.refused hsettled with
    | version _ hversion => exact absurd (herror ▸ hversion) Release.supportedVersion_ne_conflict
    | plan _ hplan => exact exists_conflicting_of_classify (herror ▸ hplan)
    | consent => cases herror
  -- Only a failed call breaks a pass off, and its error is another one.
  · obtain ⟨_, _, _, -, -, herror⟩ := hbroken
    cases herror

/-- A pass deals with nothing but what was listed and bears on its target. -/
theorem concernsCovered (h : Reconciles pageSize request now transcript result) :
    ConcernsOnly (fun policy => request.target.covers policy = true) transcript result := by
  have hcovered : ∀ upgrade ∈ transcript.observed request.target,
      upgrade.policy ∈ transcript.listed ∧ request.target.covers upgrade.policy = true :=
    fun upgrade hmem => List.mem_filter.mp (h.mem_of_mem_observed hmem).1
  refine { deleted := ?_, kept := ?_, conflicting := ?_ }
  · intro target policyId hcall
    obtain ⟨-, upgrade, hmem, hid, -⟩ := h.isWaiting_of_deleted hcall
    obtain ⟨hlisted, hcovers⟩ := hcovered upgrade hmem
    exact ⟨upgrade.policy, hlisted, hid, hcovers⟩
  · rintro kept cancelled rfl upgrade hmem
    exact hcovered upgrade (h.mem_observed_of_kept hmem)
  · rintro named requested inProgress rfl
    obtain ⟨upgrade, hmem, -, hversion⟩ := h.exists_observed_of_conflict
    obtain ⟨hlisted, hcovers⟩ := hcovered upgrade hmem
    exact ⟨upgrade.policy, hlisted, hversion, hcovers⟩

end Reconciles

/-! ### Node pools -/

theorem covers_nodePool_iff {policy : UpgradePolicy} :
    (Target.nodePool clusterId pool).covers policy = true ↔ policy.NamesNoOther pool := by
  unfold Target.covers UpgradePolicy.NamesNoOther
  cases policy.nodePoolId with
  | none => simp
  | some named => simp

theorem TellsPlatformApart.isPlatform_eq_false {policies : List UpgradePolicy}
    (h : TellsPlatformApart pool policies) {policy : UpgradePolicy} (hmem : policy ∈ policies)
    (hnames : policy.NamesNoOther pool) : policy.kind.isPlatform = false := by
  by_contra hplatform
  exact h policy hmem (Bool.not_eq_false _ ▸ hplatform) hnames

theorem eq_filter_of_runs_policies {policies : List UpgradePolicy}
    (h : (Listing.policies target pageSize).Runs transcript (.ok policies)) :
    policies = transcript.listed.filter target.covers := by
  obtain ⟨(error | all), hlist, hresult⟩ := Listing.runs_policies_iff.mp h
  · cases hresult
  · obtain ⟨rfl, -, -⟩ := (Listing.runs_drainFrom hlist).ok rfl
    cases hresult
    rfl

/-- **A pass for a node pool stays with its pool.** For every remote side: what is listed and what
the pass deals with names no other pool, and never moves the cluster itself if that can be told. -/
theorem nodePool_staysInPool {σ : Type}
    (respond : σ → (call : RemoteCall) → call.Reply × σ) (remote : σ) (pageSize : Nat)
    (clusterId pool : String) (desired : DesiredVersion) (consent : Option String) (now : Instant) :
    let target := Target.nodePool clusterId pool
    let listing := (Listing.policies target pageSize).run
    let served : Transcript := listing.transcript respond remote
    let pass := (reconcile pageSize { target, desired, consent } now).run
    let transcript : Transcript := pass.transcript respond remote
    let result := (pass.play respond remote).1.value
    (∀ policies, (listing.play respond remote).1.value = .ok policies →
      policies = served.listed.filter target.covers ∧
        (∀ policy ∈ policies, policy.NamesNoOther pool) ∧
        (TellsPlatformApart pool served.listed →
          ∀ policy ∈ policies, policy.kind.isPlatform = false)) ∧
    ConcernsOnly (UpgradePolicy.NamesNoOther pool) transcript result ∧
    (TellsPlatformApart pool transcript.listed →
      ConcernsOnly (fun policy => policy.kind.isPlatform = false) transcript result) := by
  intro target listing served pass transcript result
  have hreconciles : Reconciles pageSize { target, desired, consent } now transcript result :=
    reconciles_of_runs (pass.runs_transcript remote)
  have hpass : ConcernsOnly (UpgradePolicy.NamesNoOther pool) transcript result :=
    hreconciles.concernsCovered.imp fun policy _ => covers_nodePool_iff.mp
  refine ⟨?_, hpass, fun hapart => hpass.imp fun policy => hapart.isPlatform_eq_false⟩
  intro policies hvalue
  have hruns : listing.Runs served (listing.play respond remote).1.value :=
    listing.runs_transcript remote
  rw [hvalue] at hruns
  have hfilter : policies = served.listed.filter target.covers := eq_filter_of_runs_policies hruns
  have hmem : ∀ policy ∈ policies, policy ∈ served.listed ∧ policy.NamesNoOther pool := by
    intro policy hpolicy
    rw [hfilter] at hpolicy
    obtain ⟨hlisted, hcovers⟩ := List.mem_filter.mp hpolicy
    exact ⟨hlisted, covers_nodePool_iff.mp hcovers⟩
  refine ⟨hfilter, fun policy hpolicy => (hmem policy hpolicy).2, ?_⟩
  intro hapart policy hpolicy
  obtain ⟨hlisted, hnames⟩ := hmem policy hpolicy
  exact hapart.isPlatform_eq_false hlisted hnames

/-- The upgrade of the cluster itself names another pool; the one policy that the pass deletes names
no pool, and upgrades none but node pools. -/
theorem staysInPool_of_labelled_platform :
    let policies : List UpgradePolicy :=
      [{ id := "7", version := "4.13.9", nodePoolId := some "infra", kind := .platform },
        { id := "8", version := "4.13.9", kind := .nodePool }]
    let remote : MemoryRemote :=
      { policies := policies.map fun policy => { policy, status := { state := .scheduled } } }
    let version : Version := { major := 4, minor := 14, patch := 2, preRelease := [] }
    let target := Target.nodePool "alpha" "workers"
    let desired : DesiredVersion := { rawId := "4.14.2", version, channelGroup := none }
    let pass := (reconcile 100 { target, desired } .epoch).run
    let transcript : Transcript := pass.transcript MemoryRemote.respond remote
    transcript.listed = policies ∧ transcript.calls.filterMap RemoteCall.deletedId? = ["8"] ∧
      ConcernsOnly (fun policy => policy.kind.isPlatform = false) transcript
        (pass.play MemoryRemote.respond remote).1.value := by
  intro policies remote version target desired pass transcript
  have hplayed : transcript.listed = policies ∧
      transcript.calls.filterMap RemoteCall.deletedId? = ["8"] := by
    unfold transcript pass reconcile previewPlan Listing.upgrades Listing.policies
    dsimp only
    rw [Listing.drainFrom]
    decide +kernel
  have hapart : TellsPlatformApart "workers" transcript.listed := by
    rw [hplayed.1]
    simp [TellsPlatformApart, UpgradePolicy.NamesNoOther, UpgradeKind.isPlatform, policies]
  obtain ⟨-, -, hpass⟩ :=
    nodePool_staysInPool MemoryRemote.respond remote 100 "alpha" "workers" desired none .epoch
  refine ⟨hplayed.1, hplayed.2, ?_⟩
  unfold pass target
  exact hpass hapart

/-- A policy that moves the cluster itself and names no pool is listed for every node pool, and a
pass for one deletes it. -/
theorem nodePool_deletes_platform :
    let policy : UpgradePolicy :=
      { id := "7", clusterId := "123", version := "4.13.9", kind := .platform }
    let remote : MemoryRemote :=
      { policies := [{ policy, status := { state := .scheduled } }] }
    let version : Version := { major := 4, minor := 14, patch := 1, preRelease := [] }
    let target := Target.nodePool "123" "workers"
    let desired : DesiredVersion := { rawId := "4.14.1", version, channelGroup := none }
    let listing := (Listing.policies target 100).run.play MemoryRemote.respond remote
    let pass := (reconcile 100 { target, desired } .epoch).run.play MemoryRemote.respond remote
    policy.kind.isPlatform = true ∧ listing.1.value = .ok [policy] ∧
      pass.1.questions.filterMap RemoteCall.deletedId? = [policy.id] ∧
        policy ∉ pass.2.policies.map ExistingUpgrade.policy := by
  intro policy remote version target desired listing pass
  have hlisting : listing.1.value = .ok [policy] := by
    apply ok_of_toOption_eq_some
    unfold listing Listing.policies
    rw [Listing.drainFrom]
    decide +kernel
  refine ⟨rfl, hlisting, ?_⟩
  unfold pass reconcile previewPlan Listing.upgrades Listing.policies
  dsimp only
  rw [Listing.drainFrom]
  decide +kernel

end ClusterUpgrade
