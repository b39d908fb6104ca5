import ClusterUpgrade.Proofs.Schedule.MemoryPass

/-!
Changes to a remote side in memory where none of them is made to fail. Main statement:
`Changes.carriesOut`. All policies that the plan cancels go; then it depends on the plan and on the
reply to the dry run alone whether anything else is done.
-/

namespace ClusterUpgrade

open Transcript Dialogue

variable {request : UpgradeRequest} {target : Target} {plan : Plan}
  {remote final : MemoryRemote} {transcript : Transcript}

/-- The gates that a pass agrees to after a reply to its dry run, or why it gives up. -/
def UpgradeRequest.agreements (request : UpgradeRequest)
    (reply : Except RemoteFailure UpgradePolicy) : Except UpgradeError (List VersionGate) :=
  match GateCheck.ofReply request.target reply with
  | .error error => .error error
  | .ok .clear => .ok []
  | .ok (.missing gates) =>
    let outstanding := VersionGate.outstanding gates
    if outstanding.isEmpty || consentCovers request.consent request.desired.gatePrefix outstanding then
      .ok outstanding
    else
      .error (.consentRequired request.target request.desired.rawId
        { gates := outstanding, token := request.consent, common := request.desired.gatePrefix })

namespace MemoryRemote

/-- No deletion, agreement or creation is made to fail. -/
def AllowsChanges (remote : MemoryRemote) : Prop :=
  ∀ call : RemoteCall, call.isReadOnly = false → remote.failure? call = none

/-- The remote side without the policies of some ids. -/
def without (policyIds : List String) (remote : MemoryRemote) : MemoryRemote :=
  { remote with policies := remote.policies.filter fun upgrade => upgrade.id ∉ policyIds }

def dryRunReply (request : UpgradeRequest) (remote : MemoryRemote) :
    Except RemoteFailure UpgradePolicy :=
  (remote.respond request.dryRun).1

theorem failureRules_respond (call : RemoteCall) :
    (remote.respond call).2.failureRules = remote.failureRules := by
  cases hfailure : remote.failure? call with
  | some failure => rw [respond_of_failure?_eq_some hfailure]
  | none =>
    rw [respond_of_failure?_eq_none hfailure]
    cases call with
    | policyStatus target policyId =>
      rw [perform]
      split <;> rfl
    | versionRecord id =>
      rw [perform]
      split <;> rfl
    | _ => rfl

theorem failureRules_of_answered (hanswered : Answered respond remote transcript final) :
    final.failureRules = remote.failureRules := by
  induction transcript generalizing remote with
  | nil => exact congrArg failureRules hanswered
  | cons exchange rest ih =>
    obtain ⟨-, hrest⟩ := hanswered
    exact (ih hrest).trans (failureRules_respond exchange.1)

theorem failure?_of_answered (hanswered : Answered respond remote transcript final) :
    final.failure? = remote.failure? := by
  funext call
  rw [failure?, failure?, failureRules_of_answered hanswered]

theorem AllowsChanges.of_answered (h : remote.AllowsChanges)
    (hanswered : Answered respond remote transcript final) : final.AllowsChanges := by
  intro call hcall
  rw [failure?_of_answered hanswered]
  exact h call hcall

/-- Whether a dry run passes depends on the failure rules alone. -/
theorem dryRunReply_congr {other : MemoryRemote} (h : other.failureRules = remote.failureRules) :
    other.dryRunReply request = remote.dryRunReply request := by
  have hfailure : other.failure? request.dryRun = remote.failure? request.dryRun := by
    rw [failure?, failure?, h]
  unfold dryRunReply respond
  rw [hfailure]
  cases remote.failure? request.dryRun <;> rfl

/-- A change fails only by a failure rule. -/
theorem AllowsChanges.respond_ne_error (h : remote.AllowsChanges) {call : RemoteCall}
    (hcall : call.isReadOnly = false) (failure : RemoteFailure) :
    (remote.respond call).1 ≠ .error failure := by
  rw [respond_of_failure?_eq_none (h call hcall)]
  intro herror
  cases call with
  | deletePolicy => cases herror
  | createPolicy => cases herror
  | agreeToGate => cases herror
  | _ => cases hcall

theorem AllowsChanges.performs {α : Type} {script : List RemoteCall} {value : α}
    {result : Except UpgradeError α} (h : remote.AllowsChanges)
    (hscript : ∀ call ∈ script, call.isReadOnly = false)
    (hperforms : Performs target script value transcript result)
    (hanswered : Answered respond remote transcript final) :
    result = .ok value ∧ transcript.Settled ∧ transcript.calls = script := by
  cases result with
  | ok found =>
    obtain ⟨rfl, hperformed⟩ := hperforms.ok rfl
    exact ⟨rfl, hperformed⟩
  | error error =>
    obtain ⟨front, call, failure, rfl, -, -⟩ := hperforms.breaksOff
    obtain ⟨middle, hfront, hlast⟩ := answered_append_iff.mp hanswered
    have hcall : call.isReadOnly = false := hscript call (hperforms.mem_script (by simp))
    obtain ⟨hreply, -⟩ := answered_singleton_iff.mp hlast
    exact absurd hreply.symm ((h.of_answered hfront).respond_ne_error hcall failure)

end MemoryRemote

/-! ### Resolving gates -/

theorem isReadOnly_of_mem_deletionCalls {policyIds : List String} {call : RemoteCall}
    (h : call ∈ deletionCalls target policyIds) : call.isReadOnly = false := by
  obtain ⟨policyId, -, rfl⟩ := List.mem_map.mp h
  rfl

theorem isReadOnly_of_mem_agreementCalls {gates : List VersionGate} {call : RemoteCall}
    (h : call ∈ agreementCalls target gates) : call.isReadOnly = false := by
  obtain ⟨gate, -, rfl⟩ := List.mem_map.mp h
  rfl

theorem agreements_of_gates {failure : RemoteFailure} {gates : List VersionGate}
    (hgates : failure.gates? = some gates) :
    request.agreements (.error failure) =
      if VersionGate.outstanding gates = [] ∨
          consentCovers request.consent request.desired.gatePrefix
            (VersionGate.outstanding gates) = true then
        .ok (VersionGate.outstanding gates)
      else
        .error (.consentRequired request.target request.desired.rawId
          { gates := VersionGate.outstanding gates
            token := request.consent
            common := request.desired.gatePrefix }) := by
  have hmissing : GateCheck.ofReply request.target (.error failure) = .ok (.missing gates) := by
    rw [GateCheck.ofReply, hgates]
  rw [UpgradeRequest.agreements, hmissing]
  simp only [Bool.or_eq_true, List.isEmpty_iff]

/-- The reply to the dry run decides how gates are resolved. -/
theorem ResolvesGates.of_memory (hallows : remote.AllowsChanges)
    {found : Except UpgradeError (List String)} (h : ResolvesGates request transcript found)
    (hanswered : Answered MemoryRemote.respond remote transcript final) :
    (∃ error, request.agreements (remote.dryRunReply request) = .error error ∧
        transcript.calls = [request.dryRun] ∧ found = .error error) ∨
      ∃ gates, request.agreements (remote.dryRunReply request) = .ok gates ∧
        transcript.calls = request.dryRun :: agreementCalls request.target gates ∧
        found = .ok (gates.map VersionGate.id) := by
  cases h with
  | @failed failure hgates =>
    have hreply : remote.dryRunReply request = .error failure := hanswered.1.symm
    have hfailed : request.agreements (.error failure) =
        .error (.remote GateCheck.operation request.target.text failure) := by
      rw [UpgradeRequest.agreements, GateCheck.ofReply, hgates]
    rw [hreply]
    exact .inl ⟨_, hfailed, rfl, rfl⟩
  | clear policy =>
    have hreply : remote.dryRunReply request = .ok policy := hanswered.1.symm
    rw [hreply]
    exact .inr ⟨[], rfl, rfl, rfl⟩
  | @automatic failure gates hgates houtstanding =>
    have hreply : remote.dryRunReply request = .error failure := hanswered.1.symm
    rw [hreply, agreements_of_gates hgates, if_pos (.inl houtstanding), houtstanding]
    exact .inr ⟨[], rfl, rfl, rfl⟩
  | @refused failure gates hgates houtstanding hconsent =>
    have hreply : remote.dryRunReply request = .error failure := hanswered.1.symm
    rw [hreply, agreements_of_gates hgates, if_neg (by simp [houtstanding, hconsent])]
    exact .inl ⟨_, rfl, rfl, rfl⟩
  | @agreed failure gates rest _ hgates houtstanding hconsent hrest =>
    obtain ⟨hfirst, hothers⟩ := hanswered
    have hreply : remote.dryRunReply request = .error failure := hfirst.symm
    have hunchanged : (remote.respond request.dryRun).2 = remote :=
      MemoryRemote.respond_snd rfl rfl
    rw [hunchanged] at hothers
    obtain ⟨rfl, -, hcalls⟩ :=
      hallows.performs (fun _ => isReadOnly_of_mem_agreementCalls) hrest hothers
    rw [hreply, agreements_of_gates hgates, if_pos (.inr hconsent)]
    exact .inr ⟨_, rfl, congrArg (List.cons _) hcalls, rfl⟩

/-! ### Carrying a plan out -/

/-- How a plan is carried out where no change fails: the calls, the result, and the remote side that
is left. -/
inductive CarriesOut (request : UpgradeRequest) (plan : Plan) (remote : MemoryRemote) :
    List RemoteCall → Except UpgradeError ReconcileOutcome → MemoryRemote → Prop where
  | satisfied (hkeep : plan.isSatisfied = true) :
      CarriesOut request plan remote
        (deletionCalls request.target (plan.cancel.map ExistingUpgrade.id))
        (.ok (.alreadyScheduled plan.keep (plan.cancel.map ExistingUpgrade.id)))
        (remote.without (plan.cancel.map ExistingUpgrade.id))
  | refused {error : UpgradeError} (hkeep : plan.isSatisfied = false)
      (hgates : request.agreements (remote.dryRunReply request) = .error error) :
      CarriesOut request plan remote
        (deletionCalls request.target (plan.cancel.map ExistingUpgrade.id) ++ [request.dryRun])
        (.error error)
        (remote.without (plan.cancel.map ExistingUpgrade.id))
  | scheduled {gates : List VersionGate} (hkeep : plan.isSatisfied = false)
      (hgates : request.agreements (remote.dryRunReply request) = .ok gates) :
      CarriesOut request plan remote
        (deletionCalls request.target (plan.cancel.map ExistingUpgrade.id)
          ++ (request.dryRun :: agreementCalls request.target gates ++ [request.creation]))
        (.ok (.scheduled (remote.created request).policy (plan.cancel.map ExistingUpgrade.id)
          (gates.map VersionGate.id)))
        ((remote.without (plan.cancel.map ExistingUpgrade.id)).addPolicy
          (remote.created request).policy)

/-- **Changes to memory.** Where none is made to fail, a plan is carried out. -/
theorem Changes.carriesOut (hallows : remote.AllowsChanges)
    {result : Except UpgradeError ReconcileOutcome} (h : Changes request plan transcript result)
    (hanswered : Answered MemoryRemote.respond remote transcript final) :
    CarriesOut request plan remote transcript.calls result final := by
  cases h with
  | uncancelled hcancel =>
    obtain ⟨hresult, -⟩ :=
      hallows.performs (fun _ => isReadOnly_of_mem_deletionCalls) hcancel hanswered
    cases hresult
  | satisfied hsettled hcancel hkeep =>
    obtain rfl := policies_of_deletions hsettled hcancel hanswered
    rw [hcancel]
    exact .satisfied hkeep
  | unresolved hsettled hcancel hkeep hgates =>
    obtain ⟨middle, hdeletions, hresolving⟩ := answered_append_iff.mp hanswered
    have hreply : middle.dryRunReply request = remote.dryRunReply request :=
      MemoryRemote.dryRunReply_congr (MemoryRemote.failureRules_of_answered hdeletions)
    obtain rfl := eq_of_resolvesGates hgates hresolving
    rcases hgates.of_memory (hallows.of_answered hdeletions) hresolving with
      ⟨error, hagreements, hcalls, hfound⟩ | ⟨reported, -, -, hfound⟩
    · cases hfound
      rw [hreply] at hagreements
      obtain rfl := policies_of_deletions hsettled hcancel hdeletions
      rw [calls_append, hcancel, hcalls]
      exact .refused hkeep hagreements
    · cases hfound
  | @uncreated deletions gates _ failure hsettled hcancel hkeep hgates =>
    rw [← List.append_assoc] at hanswered
    obtain ⟨after, hfront, hcreation⟩ := answered_append_iff.mp hanswered
    obtain ⟨hreply, -⟩ := answered_singleton_iff.mp hcreation
    have hallowed : after.AllowsChanges := hallows.of_answered hfront
    exact absurd hreply.symm (hallowed.respond_ne_error rfl failure)
  | scheduled hsettled hcancel hkeep hgates =>
    obtain ⟨middle, hdeletions, hrest⟩ := answered_append_iff.mp hanswered
    obtain ⟨after, hresolving, hcreation⟩ := answered_append_iff.mp hrest
    have hreply : middle.dryRunReply request = remote.dryRunReply request :=
      MemoryRemote.dryRunReply_congr (MemoryRemote.failureRules_of_answered hdeletions)
    obtain rfl := eq_of_resolvesGates hgates hresolving
    rcases hgates.of_memory (hallows.of_answered hdeletions) hresolving with
      ⟨error, -, -, hfound⟩ | ⟨reported, hagreements, hcalls, hfound⟩
    · cases hfound
    · cases hfound
      rw [hreply] at hagreements
      obtain rfl := policies_of_deletions hsettled hcancel hdeletions
      obtain ⟨rfl, rfl⟩ := addPolicy_of_creation hcreation
      rw [calls_append, calls_append, hcancel, hcalls]
      exact .scheduled hkeep hagreements

end ClusterUpgrade
