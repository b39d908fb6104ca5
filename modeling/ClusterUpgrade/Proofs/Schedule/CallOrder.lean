import ClusterUpgrade.Proofs.Schedule.Pass

/-!
The order of the calls of a pass. Main statement: `reconcile_keepsCallOrder`. Whatever the remote
side answers, a pass reads all policies, deletes what its plan cancels, and only where nothing is
kept makes one dry run, agrees to the outstanding gates and creates one policy; a call that fails
ends it.
-/

namespace ClusterUpgrade

open Transcript

variable {pageSize : Nat} {target : Target} {request : UpgradeRequest}
  {now : Instant} {front rest transcript : Transcript}

namespace ReconcileOutcome

def cancelled : ReconcileOutcome → List String
  | .alreadyScheduled _ cancelled => cancelled
  | .scheduled _ cancelled _ => cancelled

def acknowledged : ReconcileOutcome → List String
  | .alreadyScheduled .. => []
  | .scheduled _ _ acknowledged => acknowledged

def isScheduled : ReconcileOutcome → Bool
  | .alreadyScheduled .. => false
  | .scheduled .. => true

end ReconcileOutcome

/-- The calls by which gates are resolved: the dry run, then the agreements to what it reports. -/
def gateCalls (request : UpgradeRequest) (gates : List VersionGate) : List RemoteCall :=
  request.dryRun :: agreementCalls request.target (VersionGate.outstanding gates)

/-- The calls of a pass behind its reading: all deletions of the plan and, if nothing is kept, the
dry run, the agreements to the reported gates that need consent, and the creation. -/
def changingCalls (request : UpgradeRequest) (gates : List VersionGate) (plan : Plan) :
    List RemoteCall :=
  deletionCalls request.target (plan.cancel.map ExistingUpgrade.id)
    ++ if plan.isSatisfied then [] else gateCalls request gates ++ [request.creation]

/-- The calls that a pass has to make, given what the transcript shows of the replies. -/
def passCalls (pageSize : Nat) (request : UpgradeRequest) (now : Instant)
    (transcript : Transcript) : List RemoteCall :=
  Listing.readingCalls request.target pageSize transcript
    ++ ((classify request.target (transcript.observed request.target) request.desired now).map
      (changingCalls request transcript.reportedGates)).toOption.getD []

theorem isDryRun_of_mem_deletionCalls {policyIds : List String} {call : RemoteCall}
    (h : call ∈ deletionCalls target policyIds) : call.isDryRun = false := by
  obtain ⟨policyId, -, rfl⟩ := List.mem_map.mp h
  rfl

theorem isDryRun_of_mem_agreementCalls {gates : List VersionGate} {call : RemoteCall}
    (h : call ∈ agreementCalls target gates) : call.isDryRun = false := by
  obtain ⟨gate, -, rfl⟩ := List.mem_map.mp h
  rfl

theorem isReading_of_mem_changingCalls {gates : List VersionGate} {plan : Plan} {call : RemoteCall}
    (h : call ∈ changingCalls request gates plan) : call.isReading = false := by
  rcases List.mem_append.mp h with h | h
  · obtain ⟨policyId, -, rfl⟩ := List.mem_map.mp h
    rfl
  · split at h
    · cases h
    · rcases List.mem_append.mp h with h | h
      · rcases List.mem_cons.mp h with rfl | h
        · rfl
        · obtain ⟨gate, -, rfl⟩ := List.mem_map.mp h
          rfl
      · obtain rfl := List.mem_singleton.mp h
        rfl

/-! ### Gates -/

section Gates

variable {failure : RemoteFailure} {reported : List VersionGate} {gates : Transcript}
  {acknowledged : List String} {error : UpgradeError}

theorem settled_dryRun (hgates : failure.gates? = some reported) :
    RemoteExchange.Settled ⟨request.dryRun, .error failure⟩ := by
  apply Or.inr
  intro hnone
  cases hgates.symm.trans hnone

theorem reportedGates_dryRun (hgates : failure.gates? = some reported)
    (hrest : ∀ call ∈ rest.calls, call.isDryRun = false) :
    reportedGates (⟨request.dryRun, .error failure⟩ :: rest) = reported := by
  have hhead : RemoteExchange.reportedGates? ⟨request.dryRun, .error failure⟩ = some reported :=
    hgates
  rw [reportedGates_cons, hhead, reportedGates_eq_nil hrest, Option.getD_some, List.append_nil]

theorem ResolvesGates.of_ok (h : ResolvesGates request gates (.ok acknowledged)) :
    gates.Settled ∧ gates.calls = gateCalls request gates.reportedGates ∧
      acknowledged = (VersionGate.outstanding gates.reportedGates).map VersionGate.id := by
  cases h with
  | clear policy => exact ⟨List.forall_mem_singleton.mpr (.inl ⟨policy, rfl⟩), rfl, rfl⟩
  | automatic hgates houtstanding =>
    rw [gateCalls, reportedGates_dryRun hgates (List.forall_mem_nil _), houtstanding]
    exact ⟨List.forall_mem_singleton.mpr (settled_dryRun hgates), rfl, rfl⟩
  | agreed hgates houtstanding hconsent hrest =>
    obtain ⟨rfl, hsettled, hcalls⟩ := hrest.ok rfl
    rw [gateCalls, reportedGates_dryRun hgates fun call hcall =>
      isDryRun_of_mem_agreementCalls (hrest.mem_script hcall)]
    exact ⟨settled_cons_iff.mpr ⟨settled_dryRun hgates, hsettled⟩, congrArg _ hcalls, rfl⟩

theorem ResolvesGates.of_error (h : ResolvesGates request gates (.error error)) :
    gates.calls <+: gateCalls request gates.reportedGates ∧
      (gates.Settled ∨ gates.BreaksOff request.target error) := by
  cases h with
  | @failed failure hgates =>
    refine ⟨List.prefix_append [request.dryRun] _, .inr ?_⟩
    exact ⟨[], request.dryRun, failure, rfl, settled_nil, rfl⟩
  | refused hgates houtstanding hconsent =>
    refine ⟨List.prefix_append [request.dryRun] _, .inl ?_⟩
    exact List.forall_mem_singleton.mpr (settled_dryRun hgates)
  | agreed hgates houtstanding hconsent hrest =>
    rw [gateCalls, reportedGates_dryRun hgates fun call hcall =>
      isDryRun_of_mem_agreementCalls (hrest.mem_script hcall)]
    refine ⟨(List.prefix_cons_inj request.dryRun).mpr hrest.1, .inr ?_⟩
    exact hrest.breaksOff.append (List.forall_mem_singleton.mpr (settled_dryRun hgates))

theorem ResolvesGates.calls_start {found : Except UpgradeError (List String)}
    (h : ResolvesGates request gates found) :
    gates.calls <+: gateCalls request gates.reportedGates := by
  cases found with
  | error error => exact h.of_error.1
  | ok acknowledged =>
    obtain ⟨-, hcalls, -⟩ := h.of_ok
    exact hcalls ▸ List.prefix_rfl

end Gates

/-! ### Changes -/

section Changes

variable {plan : Plan} {outcome : ReconcileOutcome} {error : UpgradeError} {deletions : Transcript}
  {policyIds : List String}

theorem reportedGates_deletions_append
    (hcancel : deletions.calls = deletionCalls request.target policyIds) :
    reportedGates (deletions ++ rest) = rest.reportedGates := by
  have hnone : deletions.reportedGates = [] :=
    reportedGates_eq_nil fun call hcall => isDryRun_of_mem_deletionCalls (hcancel ▸ hcall)
  rw [reportedGates_append, hnone, List.nil_append]

theorem reportedGates_append_creation {reply : request.creation.Reply} :
    reportedGates (transcript ++ [⟨request.creation, reply⟩]) = transcript.reportedGates := by
  have hnone : reportedGates [⟨request.creation, reply⟩] = [] :=
    reportedGates_eq_nil (List.forall_mem_singleton.mpr rfl)
  rw [reportedGates_append, hnone, List.append_nil]

theorem Changes.of_ok (h : Changes request plan transcript (.ok outcome)) :
    transcript.Settled ∧ transcript.calls = changingCalls request transcript.reportedGates plan ∧
      outcome.cancelled = plan.cancel.map ExistingUpgrade.id ∧
      outcome.isScheduled = !plan.isSatisfied ∧
      outcome.acknowledged = if plan.isSatisfied then []
        else (VersionGate.outstanding transcript.reportedGates).map VersionGate.id := by
  cases h with
  | satisfied hsettled hcancel hkeep =>
    rw [changingCalls, if_pos hkeep, if_pos hkeep, List.append_nil, hkeep]
    exact ⟨hsettled, hcancel, rfl, rfl, rfl⟩
  | @scheduled deletions gates acknowledged policy hsettled hcancel hkeep hgates =>
    obtain ⟨hresolved, hcalls, rfl⟩ := hgates.of_ok
    have hkept : ¬plan.isSatisfied = true := by simp [hkeep]
    rw [reportedGates_deletions_append hcancel, reportedGates_append_creation, changingCalls,
      if_neg hkept, if_neg hkept, hkeep]
    refine ⟨?_, ?_, rfl, rfl, rfl⟩
    · have hcreated : RemoteExchange.Settled ⟨request.creation, .ok policy⟩ := .inl ⟨policy, rfl⟩
      exact settled_append_iff.mpr ⟨hsettled,
        settled_append_iff.mpr ⟨hresolved, List.forall_mem_singleton.mpr hcreated⟩⟩
    · rw [calls_append, calls_append, hcancel, hcalls]
      rfl

theorem Changes.of_error (h : Changes request plan transcript (.error error)) :
    transcript.calls <+: changingCalls request transcript.reportedGates plan ∧
      (transcript.Settled ∨ transcript.BreaksOff request.target error) := by
  cases h with
  | uncancelled hcancel =>
    exact ⟨hcancel.1.trans (List.prefix_append ..), .inr hcancel.breaksOff⟩
  | unresolved hsettled hcancel hkeep hgates =>
    obtain ⟨hcalls, hending⟩ := hgates.of_error
    rw [reportedGates_deletions_append hcancel, changingCalls, if_neg (by simp [hkeep]),
      calls_append, hcancel]
    refine ⟨(List.prefix_append_right_inj _).mpr (hcalls.trans (List.prefix_append ..)), ?_⟩
    exact hending.imp (fun hresolved => settled_append_iff.mpr ⟨hsettled, hresolved⟩)
      (BreaksOff.append hsettled)
  | @uncreated deletions gates acknowledged failure hsettled hcancel hkeep hgates =>
    obtain ⟨hresolved, hcalls, rfl⟩ := hgates.of_ok
    rw [reportedGates_deletions_append hcancel, reportedGates_append_creation, changingCalls,
      if_neg (by simp [hkeep]), calls_append, calls_append, hcancel, hcalls]
    refine ⟨List.prefix_rfl, .inr (BreaksOff.append hsettled ?_)⟩
    exact ⟨gates, request.creation, failure, rfl, hresolved, rfl⟩

theorem Changes.calls_start {result : Except UpgradeError ReconcileOutcome}
    (h : Changes request plan transcript result) :
    transcript.calls <+: changingCalls request transcript.reportedGates plan := by
  cases result with
  | error error => exact h.of_error.1
  | ok outcome =>
    obtain ⟨-, hcalls, -⟩ := h.of_ok
    exact hcalls ▸ List.prefix_rfl

end Changes

/-! ### Passes -/

theorem reportedGates_reading_append (h : ∀ call ∈ front.calls, call.isReading = true) :
    reportedGates (front ++ rest) = rest.reportedGates := by
  have hnone : front.reportedGates = [] := reportedGates_eq_nil fun call hcall =>
    RemoteCall.isDryRun_of_isReading (h call hcall)
  rw [reportedGates_append, hnone, List.nil_append]

theorem passCalls_append {plan : Plan} {result : Except UpgradeError ReconcileOutcome}
    (hplan : Previews pageSize request.target request.desired now front (.ok plan))
    (hchange : Changes request plan rest result) :
    passCalls pageSize request now (front ++ rest) =
      front.calls ++ changingCalls request rest.reportedGates plan := by
  obtain ⟨-, hcalls, hjudged⟩ := hplan.of_ok
  have hreading : ∀ call ∈ rest.calls, call.isReading = false := fun call hcall =>
    isReading_of_mem_changingCalls (hchange.calls_start.subset hcall)
  have hgates : reportedGates (front ++ rest) = rest.reportedGates :=
    reportedGates_reading_append fun call => hplan.isReading_of_mem_calls
  rw [passCalls, Listing.readingCalls_append hreading, Listing.observed_append hreading, hjudged,
    hgates, ← hcalls]
  rfl

/-! ### Deletions, agreements and creations -/

section Kinds

variable {policyIds : List String} {gates : List VersionGate} {plan : Plan}

theorem filterMap_deletedId?_deletionCalls :
    (deletionCalls target policyIds).filterMap RemoteCall.deletedId? = policyIds := by
  rw [deletionCalls, List.filterMap_map]
  exact List.filterMap_some

theorem filterMap_agreedGateId?_agreementCalls :
    (agreementCalls target gates).filterMap RemoteCall.agreedGateId? =
      gates.map VersionGate.id := by
  rw [agreementCalls, List.filterMap_map, ← List.filterMap_eq_map]
  rfl

theorem filterMap_deletedId?_agreementCalls :
    (agreementCalls target gates).filterMap RemoteCall.deletedId? = [] := by
  apply List.filterMap_eq_nil_iff.mpr
  intro call hcall
  obtain ⟨gate, -, rfl⟩ := List.mem_map.mp hcall
  rfl

theorem filterMap_agreedGateId?_deletionCalls :
    (deletionCalls target policyIds).filterMap RemoteCall.agreedGateId? = [] := by
  apply List.filterMap_eq_nil_iff.mpr
  intro call hcall
  obtain ⟨policyId, -, rfl⟩ := List.mem_map.mp hcall
  rfl

theorem filterMap_deletedId?_changingCalls :
    (changingCalls request gates plan).filterMap RemoteCall.deletedId? =
      plan.cancel.map ExistingUpgrade.id := by
  rw [changingCalls, List.filterMap_append, filterMap_deletedId?_deletionCalls]
  split
  · exact List.append_nil _
  · rw [List.filterMap_append, gateCalls, List.filterMap_cons_none rfl,
      filterMap_deletedId?_agreementCalls]
    exact List.append_nil _

theorem filterMap_agreedGateId?_changingCalls :
    (changingCalls request gates plan).filterMap RemoteCall.agreedGateId? =
      if plan.isSatisfied then [] else (VersionGate.outstanding gates).map VersionGate.id := by
  rw [changingCalls, List.filterMap_append, filterMap_agreedGateId?_deletionCalls, List.nil_append]
  split
  · rfl
  · rw [List.filterMap_append, gateCalls, List.filterMap_cons_none rfl,
      filterMap_agreedGateId?_agreementCalls]
    exact List.append_nil _

theorem countP_isCreation_changingCalls :
    (changingCalls request gates plan).countP RemoteCall.isCreation =
      if plan.isSatisfied then 0 else 1 := by
  have hdeletions : (deletionCalls request.target (plan.cancel.map ExistingUpgrade.id)).countP
      RemoteCall.isCreation = 0 := by
    apply List.countP_eq_zero.mpr
    intro call hcall
    obtain ⟨policyId, -, rfl⟩ := List.mem_map.mp hcall
    exact Bool.false_ne_true
  have hagreements : (agreementCalls request.target (VersionGate.outstanding gates)).countP
      RemoteCall.isCreation = 0 := by
    apply List.countP_eq_zero.mpr
    intro call hcall
    obtain ⟨gate, -, rfl⟩ := List.mem_map.mp hcall
    exact Bool.false_ne_true
  rw [changingCalls, List.countP_append, hdeletions]
  split
  · rfl
  · rw [List.countP_append, gateCalls, List.countP_cons_of_neg Bool.false_ne_true, hagreements]
    rfl

end Kinds

theorem kinds_of_reading_append {reading : List RemoteCall} (rest : List RemoteCall)
    (hreading : ∀ call ∈ reading, call.isReading = true) :
    (reading ++ rest).filterMap RemoteCall.deletedId? = rest.filterMap RemoteCall.deletedId? ∧
      (reading ++ rest).filterMap RemoteCall.agreedGateId? =
        rest.filterMap RemoteCall.agreedGateId? ∧
      (reading ++ rest).countP RemoteCall.isCreation = rest.countP RemoteCall.isCreation := by
  have hdeleted : reading.filterMap RemoteCall.deletedId? = [] :=
    List.filterMap_eq_nil_iff.mpr fun call hcall =>
      (RemoteCall.eq_none_of_isReading (hreading call hcall)).1
  have hagreed : reading.filterMap RemoteCall.agreedGateId? = [] :=
    List.filterMap_eq_nil_iff.mpr fun call hcall =>
      (RemoteCall.eq_none_of_isReading (hreading call hcall)).2.1
  have hcreated : reading.countP RemoteCall.isCreation = 0 :=
    List.countP_eq_zero.mpr fun call hcall => by
      simp [(RemoteCall.eq_none_of_isReading (hreading call hcall)).2.2]
  rw [List.filterMap_append, List.filterMap_append, List.countP_append, hdeleted, hagreed, hcreated]
  exact ⟨rfl, rfl, Nat.zero_add _⟩

/-! ### Whole passes -/

/-- Why a pass gives up although no call failed: the version is not supported, the policies that were
read forbid a plan, or gates are outstanding that the consent does not cover. -/
inductive Refuses (pageSize : Nat) (request : UpgradeRequest) (now : Instant)
    (transcript : Transcript) : UpgradeError → Prop where
  | version {error : UpgradeError} (hcalls : transcript = [])
      (hversion : Release.supportedVersion request.desired.rawId = .error error) :
      Refuses pageSize request now transcript error
  | plan {error : UpgradeError}
      (hcalls : transcript.calls = Listing.readingCalls request.target pageSize transcript)
      (hplan : classify request.target (transcript.observed request.target) request.desired now =
        .error error) :
      Refuses pageSize request now transcript error
  | consent {plan : Plan}
      (hplan : classify request.target (transcript.observed request.target) request.desired now =
        .ok plan)
      (hkeep : plan.isSatisfied = false)
      (hcalls : transcript.calls = Listing.readingCalls request.target pageSize transcript
        ++ deletionCalls request.target (plan.cancel.map ExistingUpgrade.id) ++ [request.dryRun])
      (hgates : VersionGate.outstanding transcript.reportedGates ≠ [])
      (hconsent : consentCovers request.consent request.desired.gatePrefix
        (VersionGate.outstanding transcript.reportedGates) = false) :
      Refuses pageSize request now transcript
        (.consentRequired request.target request.desired.rawId
          { gates := VersionGate.outstanding transcript.reportedGates
            token := request.consent
            common := request.desired.gatePrefix })

/-- What the calls of a pass, the point where they end and its result have to do with each other. -/
structure KeepsCallOrder (pageSize : Nat) (request : UpgradeRequest) (now : Instant)
    (transcript : Transcript) (result : Except UpgradeError ReconcileOutcome) : Prop where
  calls_start : transcript.calls <+: passCalls pageSize request now transcript
  /-- A failed call ends the pass, unless it is a dry run that reports gates. -/
  failure_ends : ∀ front call failure rest,
    transcript = front ++ ⟨call, .error failure⟩ :: rest →
      (call.isDryRun = true → failure.gates? = none) →
        rest = [] ∧ ∃ error, result = .error error ∧
          error = .remote call.operation request.target.text failure ∧
          error.message = "[" ++ call.operation ++ "] " ++ request.target.text ++ ": "
            ++ failure.message ∧
          error.isTransient = failure.isTransient
  refused : ∀ error, result = .error error → transcript.Settled →
    Refuses pageSize request now transcript error
  /-- A pass that ends well has made all its calls, and its outcome lists them. -/
  completed : ∀ outcome, result = .ok outcome →
    transcript.calls = passCalls pageSize request now transcript ∧
      outcome.cancelled = transcript.calls.filterMap RemoteCall.deletedId? ∧
      outcome.acknowledged = transcript.calls.filterMap RemoteCall.agreedGateId? ∧
      transcript.calls.countP RemoteCall.isCreation = if outcome.isScheduled then 1 else 0

theorem ResolvesGates.refuses {gates : Transcript} {error : UpgradeError}
    (h : ResolvesGates request gates (.error error)) (hsettled : gates.Settled) :
    gates.calls = [request.dryRun] ∧ VersionGate.outstanding gates.reportedGates ≠ [] ∧
      consentCovers request.consent request.desired.gatePrefix
        (VersionGate.outstanding gates.reportedGates) = false ∧
      error = .consentRequired request.target request.desired.rawId
        { gates := VersionGate.outstanding gates.reportedGates
          token := request.consent
          common := request.desired.gatePrefix } := by
  cases h with
  | failed hgates =>
    have hfailure := hsettled _ List.mem_cons_self
    exact absurd hfailure (RemoteExchange.not_settled_of_error fun _ => hgates)
  | refused hgates houtstanding hconsent =>
    rw [reportedGates_dryRun hgates (List.forall_mem_nil _)]
    exact ⟨rfl, houtstanding, hconsent, rfl⟩
  | agreed _ _ _ hrest =>
    obtain ⟨-, hagreements⟩ := settled_cons_iff.mp hsettled
    refine absurd hagreements (hrest.breaksOff.not_settled ?_)
    intro call hcall
    exact isDryRun_of_mem_agreementCalls (hrest.mem_script hcall)

theorem Changes.refuses {plan : Plan} {error : UpgradeError}
    (h : Changes request plan transcript (.error error)) (hsettled : transcript.Settled) :
    plan.isSatisfied = false ∧
      transcript.calls =
        deletionCalls request.target (plan.cancel.map ExistingUpgrade.id) ++ [request.dryRun] ∧
      VersionGate.outstanding transcript.reportedGates ≠ [] ∧
      consentCovers request.consent request.desired.gatePrefix
        (VersionGate.outstanding transcript.reportedGates) = false ∧
      error = .consentRequired request.target request.desired.rawId
        { gates := VersionGate.outstanding transcript.reportedGates
          token := request.consent
          common := request.desired.gatePrefix } := by
  cases h with
  | uncancelled hcancel =>
    refine absurd hsettled (hcancel.breaksOff.not_settled ?_)
    intro call hcall
    exact isDryRun_of_mem_deletionCalls (hcancel.mem_script hcall)
  | unresolved _ hcancel hkeep hgates =>
    obtain ⟨-, hresolving⟩ := settled_append_iff.mp hsettled
    rw [reportedGates_deletions_append hcancel, calls_append, hcancel]
    obtain ⟨hcalls, hrefused⟩ := hgates.refuses hresolving
    exact ⟨hkeep, congrArg _ hcalls, hrefused⟩
  | @uncreated deletions gates _ failure =>
    have hcreation : RemoteExchange.Settled ⟨request.creation, .error failure⟩ :=
      hsettled _ (by simp)
    have hfailed : request.creation.isDryRun = true → failure.gates? = none := nofun
    exact absurd hcreation (RemoteExchange.not_settled_of_error hfailed)

theorem Previews.refuses {error : UpgradeError}
    (h : Previews pageSize request.target request.desired now transcript (.error error))
    (hsettled : transcript.Settled) : Refuses pageSize request now transcript error := by
  cases h with
  | unsupported hversion => exact .version rfl hversion
  | unread _ hread =>
    have hperforms := Listing.runs_upgrades hread
    refine absurd hsettled (hperforms.breaksOff.not_settled ?_)
    intro call hcall
    exact RemoteCall.isDryRun_of_isReading
      (Listing.isReading_of_mem_readingCalls (hperforms.mem_script hcall))
  | read _ hread hjudged =>
    obtain ⟨rfl, -, hcalls⟩ := (Listing.runs_upgrades hread).ok rfl
    exact .plan hcalls hjudged

namespace Reconciles

variable {result : Except UpgradeError ReconcileOutcome} {outcome : ReconcileOutcome}
  {error : UpgradeError}

theorem calls_start (h : Reconciles pageSize request now transcript result) :
    transcript.calls <+: passCalls pageSize request now transcript := by
  cases h with
  | unplanned hplan => exact hplan.of_error.1.trans (List.prefix_append ..)
  | planned hplan hchange =>
    rw [passCalls_append hplan hchange, calls_append]
    exact (List.prefix_append_right_inj _).mpr hchange.calls_start

theorem settled_or_breaksOff (h : Reconciles pageSize request now transcript (.error error)) :
    transcript.Settled ∨ transcript.BreaksOff request.target error := by
  cases h with
  | unplanned hplan => exact hplan.of_error.2
  | planned hplan hchange =>
    obtain ⟨hsettled, -⟩ := hplan.of_ok
    exact hchange.of_error.2.imp (fun hrest => settled_append_iff.mpr ⟨hsettled, hrest⟩)
      (BreaksOff.append hsettled)

theorem refused (h : Reconciles pageSize request now transcript (.error error))
    (hsettled : transcript.Settled) : Refuses pageSize request now transcript error := by
  cases h with
  | unplanned hplan => exact hplan.refuses hsettled
  | @planned front rest plan _ hplan hchange =>
    obtain ⟨-, hcalls, hclassify⟩ := hplan.of_ok
    obtain ⟨-, hrest⟩ := settled_append_iff.mp hsettled
    obtain ⟨hkeep, hchanges, hgates, hconsent, rfl⟩ := hchange.refuses hrest
    have hreading : ∀ call ∈ rest.calls, call.isReading = false := fun call hcall =>
      isReading_of_mem_changingCalls (hchange.calls_start.subset hcall)
    have hreported : reportedGates (front ++ rest) = rest.reportedGates :=
      reportedGates_reading_append fun call => hplan.isReading_of_mem_calls
    rw [← hreported] at hgates hconsent ⊢
    refine .consent ?_ hkeep ?_ hgates hconsent
    · rwa [Listing.observed_append hreading]
    · rw [Listing.readingCalls_append hreading, calls_append, hcalls, hchanges, List.append_assoc]

theorem settled (h : Reconciles pageSize request now transcript (.ok outcome)) :
    transcript.Settled := by
  cases h with
  | planned hplan hchange =>
    obtain ⟨hreading, -⟩ := hplan.of_ok
    obtain ⟨hchanges, -⟩ := hchange.of_ok
    exact settled_append_iff.mpr ⟨hreading, hchanges⟩

theorem failure_ends {call : RemoteCall} {failure : RemoteFailure}
    (h : Reconciles pageSize request now (front ++ ⟨call, .error failure⟩ :: rest) result)
    (hgates : call.isDryRun = true → failure.gates? = none) :
    rest = [] ∧ result = .error (.remote call.operation request.target.text failure) := by
  have hexchange : ¬RemoteExchange.Settled ⟨call, .error failure⟩ :=
    RemoteExchange.not_settled_of_error hgates
  have hunsettled : ¬Settled (front ++ ⟨call, .error failure⟩ :: rest) := fun hsettled =>
    hexchange (hsettled _ (by simp))
  cases result with
  | ok outcome => exact absurd h.settled hunsettled
  | error error =>
    obtain ⟨rfl, rfl⟩ :=
      (h.settled_or_breaksOff.resolve_left hunsettled).eq_nil_of_not_settled rfl hexchange
    exact ⟨rfl, rfl⟩

theorem completed (h : Reconciles pageSize request now transcript (.ok outcome)) :
    transcript.calls = passCalls pageSize request now transcript ∧
      outcome.cancelled = transcript.calls.filterMap RemoteCall.deletedId? ∧
      outcome.acknowledged = transcript.calls.filterMap RemoteCall.agreedGateId? ∧
      transcript.calls.countP RemoteCall.isCreation = if outcome.isScheduled then 1 else 0 := by
  cases h with
  | @planned front rest plan _ hplan hchange =>
    obtain ⟨-, hcalls, hcancelled, hscheduled, hacknowledged⟩ := hchange.of_ok
    obtain ⟨hdeleted, hagreed, hcreated⟩ := kinds_of_reading_append rest.calls
      fun call => hplan.isReading_of_mem_calls
    rw [passCalls_append hplan hchange, calls_append, hdeleted, hagreed, hcreated, ← hcalls]
    refine ⟨rfl, ?_, ?_, ?_⟩
    · rw [hcancelled, hcalls, filterMap_deletedId?_changingCalls]
    · rw [hacknowledged, hcalls, filterMap_agreedGateId?_changingCalls]
    · rw [hscheduled, hcalls, countP_isCreation_changingCalls]
      cases plan.isSatisfied <;> rfl

end Reconciles

/-- **The order of calls.** For every remote side, whatever its answers. -/
theorem reconcile_keepsCallOrder {σ : Type}
    (respond : σ → (call : RemoteCall) → call.Reply × σ) (remote : σ) (pageSize : Nat)
    (request : UpgradeRequest) (now : Instant) :
    let pass := (reconcile pageSize request now).run
    let record := (pass.play respond remote).1
    let transcript : Transcript := pass.transcript respond remote
    record.questions = transcript.calls ∧
      KeepsCallOrder pageSize request now transcript record.value := by
  intro pass record transcript
  have hpass : Reconciles pageSize request now transcript record.value :=
    reconciles_of_runs (pass.runs_transcript remote)
  refine ⟨(pass.map_fst_transcript remote).symm, ?_⟩
  refine { calls_start := hpass.calls_start, failure_ends := ?_, refused := ?_, completed := ?_ }
  · intro front call failure rest htranscript hgates
    rw [htranscript] at hpass
    obtain ⟨hrest, hresult⟩ := hpass.failure_ends hgates
    exact ⟨hrest, _, hresult, rfl, rfl, rfl⟩
  · intro error hresult hsettled
    rw [hresult] at hpass
    exact hpass.refused hsettled
  · intro outcome hresult
    rw [hresult] at hpass
    exact hpass.completed

end ClusterUpgrade
