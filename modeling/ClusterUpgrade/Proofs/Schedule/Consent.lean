import ClusterUpgrade.Proofs.Schedule.CallOrder

/-!
Consent to version gates. Main statement: `reconcile_honoursConsent`. The token is held against all
reported gates that need consent before the first of them is agreed to, so a pass agrees to all of
them and goes on, or to none and gives up.

Readings and deletions do not matter here: `HonoursConsent.append` puts them in front of the stage at
which gates are resolved.
-/

namespace ClusterUpgrade

open Transcript

variable {pageSize : Nat} {request : UpgradeRequest} {now : Instant} {gates : List VersionGate}
  {front rest transcript : Transcript} {result : Except UpgradeError ReconcileOutcome}

/-- Whether a call finds gates, agrees to them, or passes them. -/
def RemoteCall.concernsGates : RemoteCall → Bool
  | .dryRunPolicy .. | .agreeToGate .. | .createPolicy .. => true
  | _ => false

/-- The operator's token, without blanks around it, names the version of every gate that needs
consent. -/
def UpgradeRequest.ConsentsTo (request : UpgradeRequest) (gates : List VersionGate) : Prop :=
  ∃ token, request.consent = some token ∧ Text.trim token ≠ "" ∧
    ∀ gate ∈ gates, gate.isAutomatic = false →
      Text.trim token = gate.effectivePrefix request.desired.gatePrefix

/-- What the calls of a pass and its result have to do with the gates that its dry run reports. -/
structure HonoursConsent (request : UpgradeRequest) (transcript : Transcript)
    (result : Except UpgradeError ReconcileOutcome) : Prop where
  one_dryRun : transcript.calls.countP RemoteCall.isDryRun ≤ 1
  agreed_reported : ∀ clusterId gateId, .agreeToGate clusterId gateId ∈ transcript.calls →
    clusterId = request.target.clusterId ∧
      ∃ gate ∈ transcript.reportedGates, gate.isAutomatic = false ∧ gate.id = gateId
  agreed_consented : ∀ clusterId gateId, .agreeToGate clusterId gateId ∈ transcript.calls →
    request.ConsentsTo transcript.reportedGates
  created_consented : ∀ target draft, .createPolicy target draft ∈ transcript.calls →
    (∃ gate ∈ transcript.reportedGates, gate.isAutomatic = false) →
      request.ConsentsTo transcript.reportedGates
  /-- One gate that the token does not name is enough to give up. -/
  refused : (∃ gate ∈ transcript.reportedGates, gate.isAutomatic = false) →
    ¬request.ConsentsTo transcript.reportedGates →
      result = .error (.consentRequired request.target request.desired.rawId
        { gates := VersionGate.outstanding transcript.reportedGates
          token := request.consent
          common := request.desired.gatePrefix }) ∧
      ∀ call ∈ transcript.calls, call.agreedGateId? = none ∧ call.isCreation = false
  /-- Where no call fails, the agreements stand in reported order between the other calls and the
  creation. -/
  agreed_in_order : (∃ gate ∈ transcript.reportedGates, gate.isAutomatic = false) →
    request.ConsentsTo transcript.reportedGates → transcript.Settled →
      ∃ before, transcript.calls = before
          ++ agreementCalls request.target (VersionGate.outstanding transcript.reportedGates)
          ++ [request.creation] ∧
        ∀ call ∈ before, call.agreedGateId? = none ∧ call.isCreation = false

/-! ### Tokens -/

theorem exists_outstanding_iff :
    (∃ gate ∈ gates, gate.isAutomatic = false) ↔ VersionGate.outstanding gates ≠ [] := by
  rw [VersionGate.outstanding, ne_eq, List.filter_eq_nil_iff]
  simp [VersionGate.needsConsent]

theorem givenToken_eq_some_iff {token : Option String} {given : String} :
    givenToken token = some given ↔
      ∃ text, token = some text ∧ Text.trim text = given ∧ given ≠ "" := by
  unfold givenToken
  rw [Option.filter_eq_some_iff, Option.map_eq_some_iff, decide_eq_true_eq]
  constructor
  · rintro ⟨⟨text, htoken, htrim⟩, hgiven⟩
    exact ⟨text, htoken, htrim, hgiven⟩
  · rintro ⟨text, htoken, htrim, hgiven⟩
    exact ⟨⟨text, htoken, htrim⟩, hgiven⟩

theorem consentCovers_iff {token : Option String} {common : String} :
    consentCovers token common gates = true ↔
      ∃ given, givenToken token = some given ∧
        ∀ gate ∈ gates, given = gate.effectivePrefix common := by
  unfold consentCovers
  cases givenToken token with
  | none => simp
  | some given => simp

theorem consentCovers_outstanding_iff :
    consentCovers request.consent request.desired.gatePrefix (VersionGate.outstanding gates) = true
      ↔ request.ConsentsTo gates := by
  have houtstanding : ∀ given : String,
      (∀ gate ∈ VersionGate.outstanding gates,
        given = gate.effectivePrefix request.desired.gatePrefix) ↔
      ∀ gate ∈ gates, gate.isAutomatic = false →
        given = gate.effectivePrefix request.desired.gatePrefix := by
    intro given
    simp [VersionGate.outstanding, VersionGate.needsConsent]
  simp only [consentCovers_iff, givenToken_eq_some_iff, houtstanding]
  constructor
  · rintro ⟨given, ⟨token, htoken, rfl, hgiven⟩, hnamed⟩
    exact ⟨token, htoken, hgiven, hnamed⟩
  · rintro ⟨token, htoken, hgiven, hnamed⟩
    exact ⟨_, ⟨token, htoken, rfl, hgiven⟩, hnamed⟩

/-! ### Stages -/

theorem concernsGates_eq_false_iff {call : RemoteCall} :
    call.concernsGates = false ↔
      call.isDryRun = false ∧ call.agreedGateId? = none ∧ call.isCreation = false := by
  cases call <;>
    simp [RemoteCall.concernsGates, RemoteCall.isDryRun, RemoteCall.agreedGateId?,
      RemoteCall.isCreation]

namespace HonoursConsent

theorem nil : HonoursConsent request [] result where
  one_dryRun := Nat.zero_le 1
  agreed_reported := by simp
  agreed_consented := by simp
  created_consented := by simp
  refused := by simp [reportedGates]
  agreed_in_order := by simp [reportedGates]

/-- Calls that do not concern gates may stand in front. -/
theorem append (hfront : ∀ call ∈ front.calls, call.concernsGates = false)
    (hrest : HonoursConsent request rest result) :
    HonoursConsent request (front ++ rest) result := by
  have hfrontKinds : ∀ call ∈ front.calls,
      call.isDryRun = false ∧ call.agreedGateId? = none ∧ call.isCreation = false :=
    fun call hcall => concernsGates_eq_false_iff.mp (hfront call hcall)
  have hfrontCount : front.calls.countP RemoteCall.isDryRun = 0 := by
    apply List.countP_eq_zero.mpr
    intro call hcall
    simp [(hfrontKinds call hcall).1]
  have hreported : reportedGates (front ++ rest) = rest.reportedGates := by
    have hnone : front.reportedGates = [] :=
      reportedGates_eq_nil fun call hcall => (hfrontKinds call hcall).1
    rw [reportedGates_append, hnone, List.nil_append]
  have hmem : ∀ call ∈ calls (front ++ rest), call.concernsGates = true → call ∈ rest.calls := by
    intro call hcall hconcerns
    rw [calls_append] at hcall
    refine (List.mem_append.mp hcall).resolve_left fun hinFront => ?_
    rw [hfront call hinFront] at hconcerns
    cases hconcerns
  constructor
  · rw [calls_append, List.countP_append, hfrontCount, Nat.zero_add]
    exact hrest.one_dryRun
  · intro clusterId gateId hcall
    rw [hreported]
    exact hrest.agreed_reported clusterId gateId (hmem _ hcall rfl)
  · intro clusterId gateId hcall
    rw [hreported]
    exact hrest.agreed_consented clusterId gateId (hmem _ hcall rfl)
  · intro target draft hcall houtstanding
    rw [hreported] at houtstanding ⊢
    exact hrest.created_consented target draft (hmem _ hcall rfl) houtstanding
  · intro houtstanding hconsent
    rw [hreported] at houtstanding hconsent ⊢
    obtain ⟨hresult, hnone⟩ := hrest.refused houtstanding hconsent
    refine ⟨hresult, fun call hcall => ?_⟩
    rw [calls_append] at hcall
    rcases List.mem_append.mp hcall with hcall | hcall
    · exact (hfrontKinds call hcall).2
    · exact hnone call hcall
  · intro houtstanding hconsent hsettled
    rw [hreported] at houtstanding hconsent ⊢
    obtain ⟨-, hrestSettled⟩ := settled_append_iff.mp hsettled
    obtain ⟨before, hcalls, hnone⟩ := hrest.agreed_in_order houtstanding hconsent hrestSettled
    refine ⟨front.calls ++ before, ?_, ?_⟩
    · rw [calls_append, hcalls]
      simp only [List.append_assoc]
    · intro call hcall
      rcases List.mem_append.mp hcall with hcall | hcall
      · exact (hfrontKinds call hcall).2
      · exact hnone call hcall

end HonoursConsent

section Resolving

variable {resolving : Transcript} {acknowledged : List String} {error : UpgradeError}

theorem countP_isDryRun_gateCalls :
    (gateCalls request gates).countP RemoteCall.isDryRun = 1 := by
  have hagreements : (agreementCalls request.target (VersionGate.outstanding gates)).countP
      RemoteCall.isDryRun = 0 := by
    apply List.countP_eq_zero.mpr
    intro call hcall
    simp [isDryRun_of_mem_agreementCalls hcall]
  rw [gateCalls, List.countP_cons_of_pos (by rfl), hagreements]

theorem agreeToGate_mem_gateCalls_iff {clusterId gateId : String} :
    .agreeToGate clusterId gateId ∈ gateCalls request gates ↔
      clusterId = request.target.clusterId ∧
        ∃ gate ∈ gates, gate.isAutomatic = false ∧ gate.id = gateId := by
  have hgates : .agreeToGate clusterId gateId ∈ gateCalls request gates ↔
      ∃ gate ∈ VersionGate.outstanding gates,
        RemoteCall.agreeToGate request.target.clusterId gate.id = .agreeToGate clusterId gateId := by
    rw [gateCalls, List.mem_cons, agreementCalls, List.mem_map]
    exact or_iff_right (by simp [UpgradeRequest.dryRun])
  rw [hgates]
  simp only [VersionGate.outstanding, List.mem_filter, VersionGate.needsConsent, Bool.not_eq_true',
    RemoteCall.agreeToGate.injEq]
  constructor
  · rintro ⟨gate, ⟨hmem, hneeds⟩, rfl, rfl⟩
    exact ⟨rfl, gate, hmem, hneeds, rfl⟩
  · rintro ⟨rfl, gate, hmem, hneeds, rfl⟩
    exact ⟨gate, ⟨hmem, hneeds⟩, rfl, rfl⟩

theorem ResolvesGates.consentsTo_of_ok (h : ResolvesGates request resolving (.ok acknowledged))
    (houtstanding : VersionGate.outstanding resolving.reportedGates ≠ []) :
    request.ConsentsTo resolving.reportedGates := by
  cases h with
  | clear policy => exact absurd rfl houtstanding
  | automatic hgates hnone =>
    rw [reportedGates_dryRun hgates (List.forall_mem_nil _)] at houtstanding
    exact absurd hnone houtstanding
  | agreed hgates _ hconsent hrest =>
    rw [reportedGates_dryRun hgates fun call hcall =>
      isDryRun_of_mem_agreementCalls (hrest.mem_script hcall)]
    exact consentCovers_outstanding_iff.mp hconsent

/-- A dry run that breaks off reports nothing, and one that is refused for want of consent is not
followed by any call. -/
theorem ResolvesGates.of_not_consentsTo (h : ResolvesGates request resolving (.error error))
    (houtstanding : VersionGate.outstanding resolving.reportedGates ≠ [])
    (hconsent : ¬request.ConsentsTo resolving.reportedGates) :
    resolving.calls = [request.dryRun] ∧
      error = .consentRequired request.target request.desired.rawId
        { gates := VersionGate.outstanding resolving.reportedGates
          token := request.consent
          common := request.desired.gatePrefix } := by
  cases h with
  | @failed failure hgates =>
    have hnone : reportedGates [⟨request.dryRun, .error failure⟩] = [] := by
      have hhead : RemoteExchange.reportedGates? ⟨request.dryRun, .error failure⟩ = none := hgates
      rw [reportedGates_cons, hhead]
      rfl
    rw [hnone] at houtstanding
    exact absurd rfl houtstanding
  | refused hgates _ _ =>
    rw [reportedGates_dryRun hgates (List.forall_mem_nil _)]
    exact ⟨rfl, rfl⟩
  | agreed hgates _ hcovers hrest =>
    rw [reportedGates_dryRun hgates fun call hcall =>
      isDryRun_of_mem_agreementCalls (hrest.mem_script hcall)] at hconsent
    exact absurd (consentCovers_outstanding_iff.mp hcovers) hconsent

theorem ResolvesGates.consentsTo_of_agreed {found : Except UpgradeError (List String)}
    (h : ResolvesGates request resolving found) {clusterId gateId : String}
    (hcall : .agreeToGate clusterId gateId ∈ resolving.calls) :
    request.ConsentsTo resolving.reportedGates := by
  have hgate := agreeToGate_mem_gateCalls_iff.mp (h.calls_start.subset hcall)
  obtain ⟨-, gate, hmem, hneeds, -⟩ := hgate
  have houtstanding := exists_outstanding_iff.mp ⟨gate, hmem, hneeds⟩
  cases found with
  | ok acknowledged => exact h.consentsTo_of_ok houtstanding
  | error error =>
    by_contra hconsent
    obtain ⟨hcalls, -⟩ := h.of_not_consentsTo houtstanding hconsent
    rw [hcalls] at hcall
    cases List.mem_singleton.mp hcall

/-- Gates that are not resolved keep a pass from its creation. -/
theorem HonoursConsent.of_error (h : ResolvesGates request resolving (.error error)) :
    HonoursConsent request resolving (.error error) where
  one_dryRun := countP_isDryRun_gateCalls ▸ h.calls_start.sublist.countP_le
  agreed_reported := fun clusterId gateId hcall =>
    agreeToGate_mem_gateCalls_iff.mp (h.calls_start.subset hcall)
  agreed_consented := fun clusterId gateId hcall => h.consentsTo_of_agreed hcall
  created_consented := by
    intro target draft hcall
    have hcreates := h.calls_start.subset hcall
    simp [gateCalls, agreementCalls, UpgradeRequest.dryRun] at hcreates
  refused := by
    intro houtstanding hconsent
    obtain ⟨hcalls, herror⟩ :=
      h.of_not_consentsTo (exists_outstanding_iff.mp houtstanding) hconsent
    rw [hcalls, herror]
    exact ⟨rfl, List.forall_mem_singleton.mpr ⟨rfl, rfl⟩⟩
  agreed_in_order := by
    intro houtstanding hconsent hsettled
    obtain ⟨-, -, hcovers, -⟩ := h.refuses hsettled
    rw [consentCovers_outstanding_iff.mpr hconsent] at hcovers
    cases hcovers

/-- Once gates are resolved, the creation follows. -/
theorem HonoursConsent.of_ok (h : ResolvesGates request resolving (.ok acknowledged))
    (reply : request.creation.Reply) :
    HonoursConsent request (resolving ++ [⟨request.creation, reply⟩]) result := by
  obtain ⟨-, hresolving, -⟩ := h.of_ok
  have hcalls : calls (resolving ++ [⟨request.creation, reply⟩]) =
      gateCalls request resolving.reportedGates ++ [request.creation] := by
    rw [calls_append, hresolving]
    rfl
  have hconsents : (∃ gate ∈ resolving.reportedGates, gate.isAutomatic = false) →
      request.ConsentsTo resolving.reportedGates := fun houtstanding =>
    h.consentsTo_of_ok (exists_outstanding_iff.mp houtstanding)
  have hagreed : ∀ clusterId gateId,
      .agreeToGate clusterId gateId ∈ calls (resolving ++ [⟨request.creation, reply⟩]) →
        clusterId = request.target.clusterId ∧
          ∃ gate ∈ resolving.reportedGates, gate.isAutomatic = false ∧ gate.id = gateId := by
    intro clusterId gateId hcall
    rw [hcalls] at hcall
    rcases List.mem_append.mp hcall with hcall | hcall
    · exact agreeToGate_mem_gateCalls_iff.mp hcall
    · cases List.mem_singleton.mp hcall
  constructor
  · rw [hcalls, List.countP_append, countP_isDryRun_gateCalls]
    exact Nat.le_refl 1
  · rw [reportedGates_append_creation]
    exact hagreed
  · intro clusterId gateId hcall
    rw [reportedGates_append_creation]
    obtain ⟨-, gate, hmem, hneeds, -⟩ := hagreed clusterId gateId hcall
    exact hconsents ⟨gate, hmem, hneeds⟩
  · intro target draft _ houtstanding
    rw [reportedGates_append_creation] at houtstanding ⊢
    exact hconsents houtstanding
  · intro houtstanding hconsent
    rw [reportedGates_append_creation] at houtstanding hconsent
    exact absurd (hconsents houtstanding) hconsent
  · intro _ _ _
    refine ⟨[request.dryRun], ?_, List.forall_mem_singleton.mpr ⟨rfl, rfl⟩⟩
    rw [hcalls, reportedGates_append_creation]
    rfl

end Resolving

theorem concernsGates_of_mem_deletionCalls {target : Target} {policyIds : List String}
    {call : RemoteCall} (h : call ∈ deletionCalls target policyIds) :
    call.concernsGates = false := by
  obtain ⟨policyId, -, rfl⟩ := List.mem_map.mp h
  rfl

theorem Changes.honoursConsent {plan : Plan} (h : Changes request plan transcript result) :
    HonoursConsent request transcript result := by
  cases h with
  | uncancelled hcancel =>
    rw [← List.append_nil transcript]
    refine HonoursConsent.nil.append fun call hcall => ?_
    exact concernsGates_of_mem_deletionCalls (hcancel.mem_script hcall)
  | satisfied _ hcancel _ =>
    rw [← List.append_nil transcript]
    refine HonoursConsent.nil.append fun call hcall => ?_
    exact concernsGates_of_mem_deletionCalls (hcancel ▸ hcall)
  | unresolved _ hcancel _ hgates =>
    refine (HonoursConsent.of_error hgates).append fun call hcall => ?_
    exact concernsGates_of_mem_deletionCalls (hcancel ▸ hcall)
  | uncreated _ hcancel _ hgates =>
    refine (HonoursConsent.of_ok hgates _).append fun call hcall => ?_
    exact concernsGates_of_mem_deletionCalls (hcancel ▸ hcall)
  | scheduled _ hcancel _ hgates =>
    refine (HonoursConsent.of_ok hgates _).append fun call hcall => ?_
    exact concernsGates_of_mem_deletionCalls (hcancel ▸ hcall)

theorem concernsGates_of_isReading {call : RemoteCall} (h : call.isReading = true) :
    call.concernsGates = false := by
  obtain ⟨-, hagreed, hcreated⟩ := RemoteCall.eq_none_of_isReading h
  exact concernsGates_eq_false_iff.mpr ⟨RemoteCall.isDryRun_of_isReading h, hagreed, hcreated⟩

theorem Reconciles.honoursConsent (h : Reconciles pageSize request now transcript result) :
    HonoursConsent request transcript result := by
  cases h with
  | unplanned hplan =>
    rw [← List.append_nil transcript]
    refine HonoursConsent.nil.append fun call hcall => ?_
    exact concernsGates_of_isReading (hplan.isReading_of_mem_calls hcall)
  | planned hplan hchange =>
    refine hchange.honoursConsent.append fun call hcall => ?_
    exact concernsGates_of_isReading (hplan.isReading_of_mem_calls hcall)

/-- **Consent is honoured.** For every remote side, whatever its answers. -/
theorem reconcile_honoursConsent {σ : Type}
    (respond : σ → (call : RemoteCall) → call.Reply × σ) (remote : σ) (pageSize : Nat)
    (request : UpgradeRequest) (now : Instant) :
    let pass := (reconcile pageSize request now).run
    let record := (pass.play respond remote).1
    let transcript : Transcript := pass.transcript respond remote
    record.questions = transcript.calls ∧ HonoursConsent request transcript record.value := by
  intro pass record transcript
  have hpass : Reconciles pageSize request now transcript record.value :=
    reconciles_of_runs (pass.runs_transcript remote)
  exact ⟨(pass.map_fst_transcript remote).symm, hpass.honoursConsent⟩

end ClusterUpgrade
