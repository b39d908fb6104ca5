import ClusterUpgrade.Proofs.Procedure.Script
import ClusterUpgrade.Schedule.Reconcile

/-!
The calls by which a pass changes the remote side: deletions, the dry run with the agreements to the
gates that it reports, and the creation. Main statement: `resolvesGates_of_runs`, the five ways in
which gates are resolved.
-/

namespace ClusterUpgrade

open Transcript

variable {target : Target} {request : UpgradeRequest} {transcript : Transcript}

def deletionCalls (target : Target) (policyIds : List String) : List RemoteCall :=
  policyIds.map fun policyId => .deletePolicy target policyId

def agreementCalls (target : Target) (gates : List VersionGate) : List RemoteCall :=
  gates.map fun gate => .agreeToGate target.clusterId gate.id

namespace UpgradeRequest

/-- The call that checks whether the requested upgrade could be scheduled. -/
def dryRun (request : UpgradeRequest) : RemoteCall :=
  .dryRunPolicy request.target (.manual request.desired.rawId)

/-- The call that schedules the requested upgrade. -/
def creation (request : UpgradeRequest) : RemoteCall :=
  .createPolicy request.target (.manual request.desired.rawId)

end UpgradeRequest

theorem runs_cancelAll {upgrades : List ExistingUpgrade}
    {result : Except UpgradeError (List String)}
    (h : (cancelAll target upgrades).Runs transcript result) :
    Performs target (deletionCalls target (upgrades.map ExistingUpgrade.id))
      (upgrades.map ExistingUpgrade.id) transcript result := by
  induction upgrades generalizing transcript result with
  | nil =>
    obtain ⟨rfl, rfl⟩ := Procedure.runs_pure_iff.mp h
    exact performs_nil []
  | cons upgrade rest ih =>
    rw [cancelAll, cancelPolicy, bind_assoc, Procedure.runs_call_bind_iff] at h
    rcases h with ⟨failure, rfl, rfl⟩ | ⟨answer, more, rfl, hmore⟩
    · exact performs_of_failure
    · rw [Procedure.runs_log_bind_iff, Procedure.runs_bind_pure_iff] at hmore
      obtain ⟨inner, hinner, rfl⟩ := hmore
      exact (ih hinner).cons (List.cons upgrade.id) (.deletePolicy target upgrade.id) answer

theorem runs_acknowledgeAll {gates : List VersionGate} {result : Except UpgradeError (List String)}
    (h : (GateCheck.acknowledgeAll target gates).Runs transcript result) :
    Performs target (agreementCalls target gates) (gates.map VersionGate.id) transcript result := by
  induction gates generalizing transcript result with
  | nil =>
    obtain ⟨rfl, rfl⟩ := Procedure.runs_pure_iff.mp h
    exact performs_nil []
  | cons gate rest ih =>
    rw [GateCheck.acknowledgeAll, GateCheck.acknowledge, bind_assoc, Procedure.runs_log_bind_iff,
      Procedure.runs_call_bind_iff] at h
    rcases h with ⟨failure, rfl, rfl⟩ | ⟨answer, more, rfl, hmore⟩
    · exact performs_of_failure
    · rw [Procedure.runs_bind_pure_iff] at hmore
      obtain ⟨inner, hinner, rfl⟩ := hmore
      exact (ih hinner).cons (List.cons gate.id) (.agreeToGate target.clusterId gate.id) answer

theorem runs_schedulePolicy_iff {desired : DesiredVersion}
    {result : Except UpgradeError UpgradePolicy} :
    (schedulePolicy target desired).Runs transcript result ↔
      (∃ failure, transcript = [⟨.createPolicy target (.manual desired.rawId), .error failure⟩] ∧
        result = .error (.remote "create upgrade policy" target.text failure)) ∨
      ∃ policy, transcript = [⟨.createPolicy target (.manual desired.rawId), .ok policy⟩] ∧
        result = .ok policy := by
  rw [schedulePolicy, Procedure.runs_call_bind_iff]
  refine or_congr_right (exists_congr fun policy => ?_)
  simp only [Procedure.runs_log_bind_iff, Procedure.runs_pure_iff]
  constructor
  · rintro ⟨rest, rfl, rfl, rfl⟩
    exact ⟨rfl, rfl⟩
  · rintro ⟨rfl, rfl⟩
    exact ⟨[], rfl, rfl, rfl⟩

/-! ### Gates -/

/-- What the reply to a dry run says about the gates. -/
def GateCheck.ofReply (target : Target) :
    Except RemoteFailure UpgradePolicy → Except UpgradeError GateCheck
  | .ok _ => .ok .clear
  | .error failure =>
    match failure.gates? with
    | some gates => .ok (.missing gates)
    | none => .error (.remote GateCheck.operation target.text failure)

theorem GateCheck.runs_run_iff {desired : DesiredVersion} {result : Except UpgradeError GateCheck} :
    (GateCheck.run target desired).Runs transcript result ↔
      ∃ reply : Except RemoteFailure UpgradePolicy,
        transcript = [⟨.dryRunPolicy target (.manual desired.rawId), reply⟩] ∧
          result = GateCheck.ofReply target reply := by
  rw [GateCheck.run, Procedure.runs_attempt_bind_iff]
  apply exists_congr
  intro reply
  match reply with
  | .ok _ =>
    simp only [Procedure.runs_log_bind_iff, Procedure.runs_pure_iff]
    simp [GateCheck.ofReply]
  | .error (.api error) =>
    cases hgates : (GateDetails.ofError error).gates? with
    | none => simp [GateCheck.ofReply, RemoteFailure.gates?, hgates]
    | some gates =>
      simp only [Procedure.runs_logAll_bind_iff, hgates, Procedure.runs_log_bind_iff,
        Procedure.runs_pure_iff]
      simp [GateCheck.ofReply, RemoteFailure.gates?, hgates]
  | .error (.transport _) => simp [GateCheck.ofReply, RemoteFailure.gates?]
  | .error (.decode _) => simp [GateCheck.ofReply, RemoteFailure.gates?]

/-- How the gates of a request are resolved: by a dry run that fails, passes, or reports gates; then
none of them needs consent, or the consent does not cover them, or they are all agreed to. -/
inductive ResolvesGates (request : UpgradeRequest) :
    Transcript → Except UpgradeError (List String) → Prop where
  | failed {failure : RemoteFailure} (hgates : failure.gates? = none) :
      ResolvesGates request [⟨request.dryRun, .error failure⟩]
        (.error (.remote GateCheck.operation request.target.text failure))
  | clear (policy : UpgradePolicy) : ResolvesGates request [⟨request.dryRun, .ok policy⟩] (.ok [])
  | automatic {failure : RemoteFailure} {gates : List VersionGate}
      (hgates : failure.gates? = some gates) (houtstanding : VersionGate.outstanding gates = []) :
      ResolvesGates request [⟨request.dryRun, .error failure⟩] (.ok [])
  | refused {failure : RemoteFailure} {gates : List VersionGate}
      (hgates : failure.gates? = some gates) (houtstanding : VersionGate.outstanding gates ≠ [])
      (hconsent : consentCovers request.consent request.desired.gatePrefix
        (VersionGate.outstanding gates) = false) :
      ResolvesGates request [⟨request.dryRun, .error failure⟩]
        (.error (.consentRequired request.target request.desired.rawId
          { gates := VersionGate.outstanding gates
            token := request.consent
            common := request.desired.gatePrefix }))
  | agreed {failure : RemoteFailure} {gates : List VersionGate} {rest : Transcript}
      {result : Except UpgradeError (List String)}
      (hgates : failure.gates? = some gates) (houtstanding : VersionGate.outstanding gates ≠ [])
      (hconsent : consentCovers request.consent request.desired.gatePrefix
        (VersionGate.outstanding gates) = true)
      (hrest : Performs request.target
        (agreementCalls request.target (VersionGate.outstanding gates))
        ((VersionGate.outstanding gates).map VersionGate.id) rest result) :
      ResolvesGates request (⟨request.dryRun, .error failure⟩ :: rest) result

theorem resolvesGates_of_runs {result : Except UpgradeError (List String)}
    (h : (resolveGates request).Runs transcript result) :
    ResolvesGates request transcript result := by
  rw [resolveGates, Procedure.runs_bind_iff] at h
  rcases h with ⟨error, hrun, rfl⟩ | ⟨first, second, check, rfl, hrun, hrest⟩
  · obtain ⟨(failure | policy), rfl, hreply⟩ := GateCheck.runs_run_iff.mp hrun
    · cases hgates : failure.gates? with
      | none =>
        rw [GateCheck.ofReply, hgates] at hreply
        cases hreply
        exact .failed hgates
      | some gates =>
        rw [GateCheck.ofReply, hgates] at hreply
        cases hreply
    · cases hreply
  · obtain ⟨(failure | policy), rfl, hreply⟩ := GateCheck.runs_run_iff.mp hrun
    · cases hgates : failure.gates? with
      | none =>
        rw [GateCheck.ofReply, hgates] at hreply
        cases hreply
      | some gates =>
        rw [GateCheck.ofReply, hgates] at hreply
        cases hreply
        dsimp only at hrest
        split at hrest
        · rename_i hnone
          rw [Procedure.runs_log_bind_iff, Procedure.runs_pure_iff] at hrest
          obtain ⟨rfl, rfl⟩ := hrest
          exact .automatic hgates (List.isEmpty_iff.mp hnone)
        · rename_i hsome
          split at hrest
          · rename_i hconsent
            exact .agreed hgates (mt List.isEmpty_iff.mpr hsome) hconsent
              (runs_acknowledgeAll hrest)
          · rename_i hconsent
            obtain ⟨rfl, rfl⟩ := Procedure.runs_throw_iff.mp hrest
            exact .refused hgates (mt List.isEmpty_iff.mpr hsome) (Bool.not_eq_true _ ▸ hconsent)
    · cases hreply
      obtain ⟨rfl, rfl⟩ := Procedure.runs_pure_iff.mp hrest
      exact .clear policy

end ClusterUpgrade
