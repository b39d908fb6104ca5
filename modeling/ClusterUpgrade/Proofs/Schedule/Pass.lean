import ClusterUpgrade.Proofs.Procedure.Calls
import ClusterUpgrade.Proofs.Schedule.Changing
import ClusterUpgrade.Proofs.Schedule.Reading

/-!
The stages of a pass. `Previews`, `Changes` and `Reconciles` list every way in which a pass can go,
with the transcript split at its stages; all that is proved about passes is read off from them.
-/

namespace ClusterUpgrade

open Transcript

variable {pageSize : Nat} {target : Target} {desired : DesiredVersion} {request : UpgradeRequest}
  {now : Instant} {transcript : Transcript}

/-- How a preview goes: the version is refused, the reading breaks off, or the plan is judged from
what was read. -/
inductive Previews (pageSize : Nat) (target : Target) (desired : DesiredVersion) (now : Instant) :
    Transcript → Except UpgradeError Plan → Prop where
  | unsupported {error : UpgradeError}
      (hversion : Release.supportedVersion desired.rawId = .error error) :
      Previews pageSize target desired now [] (.error error)
  | unread {version : Version} {transcript : Transcript} {error : UpgradeError}
      (hversion : Release.supportedVersion desired.rawId = .ok version)
      (hread : (Listing.upgrades target pageSize).Runs transcript (.error error)) :
      Previews pageSize target desired now transcript (.error error)
  | read {version : Version} {transcript : Transcript} {upgrades : List ExistingUpgrade}
      {result : Except UpgradeError Plan}
      (hversion : Release.supportedVersion desired.rawId = .ok version)
      (hread : (Listing.upgrades target pageSize).Runs transcript (.ok upgrades))
      (hjudged : classify target upgrades desired now = result) :
      Previews pageSize target desired now transcript result

theorem previews_of_runs {result : Except UpgradeError Plan}
    (h : (previewPlan pageSize target desired now).Runs transcript result) :
    Previews pageSize target desired now transcript result := by
  rw [previewPlan] at h
  cases hversion : Release.supportedVersion desired.rawId with
  | error error =>
    rw [hversion, Procedure.runs_ofExcept_error_bind_iff] at h
    obtain ⟨rfl, rfl⟩ := h
    exact .unsupported hversion
  | ok version =>
    rw [hversion, Procedure.runs_ofExcept_ok_bind_iff, Procedure.runs_bind_iff] at h
    rcases h with ⟨error, hread, rfl⟩ | ⟨first, second, upgrades, rfl, hread, hrest⟩
    · exact .unread hversion hread
    · rw [Procedure.runs_logAll_bind_iff] at hrest
      have hresult : second = [] ∧ result = classify target upgrades desired now := by
        cases hclassify : classify target upgrades desired now with
        | error error =>
          rwa [hclassify, Procedure.runs_ofExcept_error_bind_iff] at hrest
        | ok plan =>
          rwa [hclassify, Procedure.runs_ofExcept_ok_bind_iff, Procedure.runs_log_bind_iff,
            Procedure.runs_pure_iff] at hrest
      obtain ⟨rfl, rfl⟩ := hresult
      rw [List.append_nil]
      exact .read hversion hread rfl

theorem runs_of_previews {result : Except UpgradeError Plan}
    (h : Previews pageSize target desired now transcript result) :
    (previewPlan pageSize target desired now).Runs transcript result := by
  rw [previewPlan]
  cases h with
  | unsupported hversion =>
    rw [hversion, Procedure.runs_ofExcept_error_bind_iff]
    exact ⟨rfl, rfl⟩
  | unread hversion hread =>
    rw [hversion, Procedure.runs_ofExcept_ok_bind_iff, Procedure.runs_bind_iff]
    exact .inl ⟨_, hread, rfl⟩
  | @read _ _ upgrades _ hversion hread hjudged =>
    rw [hversion, Procedure.runs_ofExcept_ok_bind_iff, Procedure.runs_bind_iff]
    refine .inr ⟨transcript, [], upgrades, (List.append_nil _).symm, hread, ?_⟩
    rw [Procedure.runs_logAll_bind_iff, hjudged]
    cases result with
    | error error =>
      rw [Procedure.runs_ofExcept_error_bind_iff]
      exact ⟨rfl, rfl⟩
    | ok plan =>
      rw [Procedure.runs_ofExcept_ok_bind_iff, Procedure.runs_log_bind_iff, Procedure.runs_pure_iff]
      exact ⟨rfl, rfl⟩

theorem Previews.of_ok {plan : Plan}
    (h : Previews pageSize target desired now transcript (.ok plan)) :
    transcript.Settled ∧ transcript.calls = Listing.readingCalls target pageSize transcript ∧
      classify target (transcript.observed target) desired now = .ok plan := by
  cases h with
  | read hversion hread hjudged =>
    obtain ⟨rfl, hsettled, hcalls⟩ := (Listing.runs_upgrades hread).ok rfl
    exact ⟨hsettled, hcalls, hjudged⟩

theorem Previews.of_error {error : UpgradeError}
    (h : Previews pageSize target desired now transcript (.error error)) :
    transcript.calls <+: Listing.readingCalls target pageSize transcript ∧
      (transcript.Settled ∨ transcript.BreaksOff target error) := by
  cases h with
  | unsupported hversion => exact ⟨List.nil_prefix, .inl settled_nil⟩
  | unread hversion hread =>
    have hperforms := Listing.runs_upgrades hread
    exact ⟨hperforms.1, .inr hperforms.breaksOff⟩
  | read hversion hread hjudged =>
    obtain ⟨-, hsettled, hcalls⟩ := (Listing.runs_upgrades hread).ok rfl
    exact ⟨hcalls ▸ List.prefix_rfl, .inl hsettled⟩

theorem Previews.isReading_of_mem_calls {result : Except UpgradeError Plan}
    (h : Previews pageSize target desired now transcript result)
    {call : RemoteCall} (hcall : call ∈ transcript.calls) : call.isReading = true := by
  cases result with
  | error error => exact Listing.isReading_of_mem_readingCalls (h.of_error.1.subset hcall)
  | ok plan =>
    rw [h.of_ok.2.1] at hcall
    exact Listing.isReading_of_mem_readingCalls hcall

theorem Previews.of_unsupported {error : UpgradeError} {result : Except UpgradeError Plan}
    (h : Previews pageSize target desired now transcript result)
    (hversion : Release.supportedVersion desired.rawId = .error error) :
    transcript = [] ∧ result = .error error := by
  cases h with
  | unsupported hunsupported =>
    cases hunsupported.symm.trans hversion
    exact ⟨rfl, rfl⟩
  | unread hsupported => cases hsupported.symm.trans hversion
  | read hsupported => cases hsupported.symm.trans hversion

/-- A preview to a version that is supported is a reading whose policies are judged. -/
theorem Previews.exists_read {version : Version} {result : Except UpgradeError Plan}
    (h : Previews pageSize target desired now transcript result)
    (hversion : Release.supportedVersion desired.rawId = .ok version) :
    ∃ read, (Listing.upgrades target pageSize).Runs transcript read ∧
      result = read.bind fun upgrades => classify target upgrades desired now := by
  cases h with
  | unsupported hunsupported => cases hunsupported.symm.trans hversion
  | unread _ hread => exact ⟨_, hread, rfl⟩
  | read _ hread hjudged => exact ⟨_, hread, hjudged.symm⟩

theorem avoids_previewPlan {kind : RemoteCall → Bool}
    (hkind : ∀ call, call.isReading = true → kind call = false) :
    (previewPlan pageSize target desired now).Avoids kind := fun _ _ hruns call hcall =>
  hkind call ((previews_of_runs hruns).isReading_of_mem_calls hcall)

/-- How a pass changes the remote side once it has a plan: each constructor says how far it comes and
what it has done by then. -/
inductive Changes (request : UpgradeRequest) (plan : Plan) :
    Transcript → Except UpgradeError ReconcileOutcome → Prop where
  | uncancelled {deletions : Transcript} {error : UpgradeError}
      (hcancel : Performs request.target
        (deletionCalls request.target (plan.cancel.map ExistingUpgrade.id))
        (plan.cancel.map ExistingUpgrade.id) deletions (.error error)) :
      Changes request plan deletions (.error error)
  | satisfied {deletions : Transcript} (hsettled : deletions.Settled)
      (hcancel : deletions.calls =
        deletionCalls request.target (plan.cancel.map ExistingUpgrade.id))
      (hkeep : plan.isSatisfied = true) :
      Changes request plan deletions
        (.ok (.alreadyScheduled plan.keep (plan.cancel.map ExistingUpgrade.id)))
  | unresolved {deletions gates : Transcript} {error : UpgradeError}
      (hsettled : deletions.Settled)
      (hcancel : deletions.calls =
        deletionCalls request.target (plan.cancel.map ExistingUpgrade.id))
      (hkeep : plan.isSatisfied = false)
      (hgates : ResolvesGates request gates (.error error)) :
      Changes request plan (deletions ++ gates) (.error error)
  | uncreated {deletions gates : Transcript} {acknowledged : List String} {failure : RemoteFailure}
      (hsettled : deletions.Settled)
      (hcancel : deletions.calls =
        deletionCalls request.target (plan.cancel.map ExistingUpgrade.id))
      (hkeep : plan.isSatisfied = false)
      (hgates : ResolvesGates request gates (.ok acknowledged)) :
      Changes request plan (deletions ++ (gates ++ [⟨request.creation, .error failure⟩]))
        (.error (.remote request.creation.operation request.target.text failure))
  | scheduled {deletions gates : Transcript} {acknowledged : List String} {policy : UpgradePolicy}
      (hsettled : deletions.Settled)
      (hcancel : deletions.calls =
        deletionCalls request.target (plan.cancel.map ExistingUpgrade.id))
      (hkeep : plan.isSatisfied = false)
      (hgates : ResolvesGates request gates (.ok acknowledged)) :
      Changes request plan (deletions ++ (gates ++ [⟨request.creation, .ok policy⟩]))
        (.ok (.scheduled policy (plan.cancel.map ExistingUpgrade.id) acknowledged))

/-- A pass makes a plan and then changes the remote side by it. -/
inductive Reconciles (pageSize : Nat) (request : UpgradeRequest) (now : Instant) :
    Transcript → Except UpgradeError ReconcileOutcome → Prop where
  | unplanned {transcript : Transcript} {error : UpgradeError}
      (hplan : Previews pageSize request.target request.desired now transcript (.error error)) :
      Reconciles pageSize request now transcript (.error error)
  | planned {front rest : Transcript} {plan : Plan} {result : Except UpgradeError ReconcileOutcome}
      (hplan : Previews pageSize request.target request.desired now front (.ok plan))
      (hchange : Changes request plan rest result) :
      Reconciles pageSize request now (front ++ rest) result

/-- What a pass does once it has a plan. -/
def carryOut (request : UpgradeRequest) (plan : Plan) : Procedure ReconcileOutcome := do
  let cancelled ← cancelAll request.target plan.cancel
  if plan.isSatisfied then
    Procedure.log .info .coordinator
      ("Upgrade of " ++ request.target.text ++ " to " ++ request.desired.rawId
        ++ " is already scheduled")
    return .alreadyScheduled plan.keep cancelled
  else
    let acknowledged ← resolveGates request
    let policy ← schedulePolicy request.target request.desired
    return .scheduled policy cancelled acknowledged

/-- A pass is a preview whose plan is carried out. -/
theorem runs_reconcile_iff {result : Except UpgradeError ReconcileOutcome} :
    (reconcile pageSize request now).Runs transcript result ↔
      (previewPlan pageSize request.target request.desired now >>= carryOut request).Runs transcript
        result :=
  Procedure.runs_log_bind_iff

theorem changes_of_runs {plan : Plan} {result : Except UpgradeError ReconcileOutcome}
    (h : (carryOut request plan).Runs transcript result) :
    Changes request plan transcript result := by
  rw [carryOut, Procedure.runs_bind_iff] at h
  rcases h with ⟨error, hcancel, rfl⟩ | ⟨deletions, rest, cancelled, rfl, hcancel, hrest⟩
  · exact .uncancelled (runs_cancelAll hcancel)
  obtain ⟨rfl, hsettled, hcalls⟩ := (runs_cancelAll hcancel).ok rfl
  cases hkeep : plan.isSatisfied with
  | true =>
    rw [if_pos hkeep, Procedure.runs_log_bind_iff, Procedure.runs_pure_iff] at hrest
    obtain ⟨rfl, rfl⟩ := hrest
    rw [List.append_nil]
    exact .satisfied hsettled hcalls hkeep
  | false =>
    rw [if_neg (by simp [hkeep]), Procedure.runs_bind_iff] at hrest
    rcases hrest with ⟨error, hgates, rfl⟩ | ⟨gates, rest, acknowledged, rfl, hgates, hrest⟩
    · exact .unresolved hsettled hcalls hkeep (resolvesGates_of_runs hgates)
    replace hgates := resolvesGates_of_runs hgates
    rw [Procedure.runs_bind_pure_iff] at hrest
    obtain ⟨created, hcreate, rfl⟩ := hrest
    rcases runs_schedulePolicy_iff.mp hcreate with ⟨failure, rfl, rfl⟩ | ⟨policy, rfl, rfl⟩
    · exact .uncreated hsettled hcalls hkeep hgates
    · exact .scheduled hsettled hcalls hkeep hgates

theorem reconciles_of_runs {result : Except UpgradeError ReconcileOutcome}
    (h : (reconcile pageSize request now).Runs transcript result) :
    Reconciles pageSize request now transcript result := by
  rcases Procedure.runs_bind_iff.mp (runs_reconcile_iff.mp h) with
    ⟨error, hplan, rfl⟩ | ⟨front, rest, plan, rfl, hplan, hrest⟩
  · exact .unplanned (previews_of_runs hplan)
  · exact .planned (previews_of_runs hplan) (changes_of_runs hrest)

end ClusterUpgrade
