import ClusterUpgrade.Proofs.Remote.Memory
import ClusterUpgrade.Proofs.Schedule.CallOrder
import ClusterUpgrade.Proofs.Schedule.Preview
import ClusterUpgrade.Proofs.Wire.RoundTrip
import ClusterUpgrade.Wire.ApiError

/-!
What a dry run discovers. Main statement: `gateCheck_tellsReply`. The check passes, or it finds
gates, or it fails, and the reply to the dry run decides which: gates are found exactly if the reply
is an error document whose details are a list of gates, the first of them with an id, and they are
then these very gates. Every other failure ends the check, the explanation of the gates and a pass.
-/

namespace ClusterUpgrade

open Transcript

/-! ### Lists of gates -/

namespace Wire

variable {α : Type} {reader : Reader α} {expected : String} {json : Json} {elements : List Json}
  {values : List α}

theorem readAll_eq_ok_iff :
    readAll reader elements = .ok values ↔
      List.Forall₂ (fun element value => reader element = .ok value) elements values := by
  induction elements generalizing values with
  | nil =>
    rw [List.forall₂_nil_left_iff]
    constructor
    · intro h
      cases h
      rfl
    · rintro rfl
      rfl
  | cons element rest ih =>
    constructor
    · intro h
      obtain ⟨first, hfirst, h⟩ := exists_of_bind_eq_ok h
      obtain ⟨others, hothers, h⟩ := exists_of_bind_eq_ok h
      cases h
      exact .cons hfirst (ih.mp hothers)
    · rintro (_ | ⟨hfirst, hothers⟩)
      rw [readAll, hfirst, ih.mpr hothers]
      rfl

theorem list_eq_ok_iff :
    list expected reader json = .ok values ↔ ∃ elements, json = .array elements ∧
      List.Forall₂ (fun element value => reader element = .ok value) elements values := by
  constructor
  · intro h
    cases json with
    | array elements => exact ⟨elements, rfl, readAll_eq_ok_iff.mp h⟩
    | _ => cases h
  · rintro ⟨elements, rfl, hvalues⟩
    exact readAll_eq_ok_iff.mpr hvalues

theorem exists_canonical_ofGate (gate : VersionGate) :
    ∃ kept, (ofGate gate).canonical = some kept ∧ Wire.gate kept = .ok gate :=
  ⟨_, rfl, rfl⟩

theorem exists_canonicalElements_ofGate (gates : List VersionGate) :
    ∃ kept, Json.canonicalElements (gates.map ofGate) = some kept ∧
      List.Forall₂ (fun element value => gate element = .ok value) kept gates := by
  induction gates with
  | nil => exact ⟨[], rfl, .nil⟩
  | cons first rest ih =>
    obtain ⟨others, hothers, hrest⟩ := ih
    obtain ⟨kept, hkept, hfirst⟩ := exists_canonical_ofGate first
    refine ⟨kept :: others, ?_, .cons hfirst hrest⟩
    rw [List.map_cons, Json.canonicalElements, hkept, hothers]
    rfl

theorem depthOfElements_ofGate (gates : List VersionGate) :
    Json.depthOfElements (gates.map ofGate) ≤ 1 := by
  induction gates with
  | nil => exact Nat.zero_le 1
  | cons first rest ih => exact max_le (le_refl 1) ih

theorem exists_details_ofGate (gates : List VersionGate) :
    ∃ kept, details (.array (gates.map ofGate)) = .ok (some (.array kept)) ∧
      List.Forall₂ (fun element value => gate element = .ok value) kept gates := by
  obtain ⟨kept, hkept, hgates⟩ := exists_canonicalElements_ofGate gates
  have hcanonical : (Json.array (gates.map ofGate)).canonical = some (.array kept) := by
    rw [Json.canonical, hkept]
    rfl
  have hdepth : (Json.array (gates.map ofGate)).depth < detailDepthLimit := by
    have hgates := depthOfElements_ofGate gates
    rw [Json.depth, detailDepthLimit]
    omega
  refine ⟨kept, ?_, hgates⟩
  simp only [details, hcanonical, if_pos hdepth]

end Wire

/-- The failure is an error document whose details are an array, every element of it is a gate, and
the first gate has an id. -/
inductive RemoteFailure.Reports : RemoteFailure → List VersionGate → Prop where
  | details {error : ApiError} {elements : List Json} {first : VersionGate}
      {rest : List VersionGate} (hdetails : error.details = some (.array elements))
      (hgates : List.Forall₂ (fun element gate => Wire.gate element = .ok gate) elements
        (first :: rest))
      (hid : first.id ≠ "") :
      Reports (.api error) (first :: rest)

theorem GateDetails.ofError_eq_usable_iff {error : ApiError} {gates : List VersionGate} :
    GateDetails.ofError error = .usable gates ↔ (RemoteFailure.api error).Reports gates := by
  constructor
  · intro h
    rw [ofError] at h
    cases hdetails : error.details with
    | none => simp [hdetails] at h
    | some details =>
      cases hread : Wire.list "a sequence" Wire.gate details with
      | error mismatch => simp [hdetails, hread] at h
      | ok read =>
        obtain ⟨elements, rfl, hgates⟩ := Wire.list_eq_ok_iff.mp hread
        cases read with
        | nil => simp [hdetails, hread] at h
        | cons first rest =>
          by_cases hid : first.id = ""
          · simp [hdetails, hread, hid] at h
          · simp only [hdetails, hread, if_neg hid, usable.injEq] at h
            exact h ▸ .details hdetails hgates hid
  · rintro ⟨hdetails, hgates, hid⟩
    have hread : Wire.list "a sequence" Wire.gate _ = .ok _ :=
      Wire.list_eq_ok_iff.mpr ⟨_, rfl, hgates⟩
    simp only [ofError, hdetails, hread, if_neg hid]

theorem GateDetails.gates?_eq_some_iff {details : GateDetails} {gates : List VersionGate} :
    details.gates? = some gates ↔ details = .usable gates := by
  constructor
  · intro h
    cases details with
    | usable found =>
      cases h
      rfl
    | _ => cases h
  · rintro rfl
    rfl

theorem RemoteFailure.gates?_eq_some_iff {failure : RemoteFailure} {gates : List VersionGate} :
    failure.gates? = some gates ↔ failure.Reports gates := by
  cases failure with
  | api error => exact GateDetails.gates?_eq_some_iff.trans GateDetails.ofError_eq_usable_iff
  | _ =>
    constructor
    · intro h
      cases h
    · intro h
      cases h

theorem RemoteFailure.gates?_eq_none_iff {failure : RemoteFailure} :
    failure.gates? = none ↔ ∀ gates, ¬failure.Reports gates := by
  simp only [Option.eq_none_iff_forall_ne_some, ne_eq, gates?_eq_some_iff]

/-! ### The check -/

/-- What the reply to a dry run comes to, for each of the three results of a check. -/
structure TellsReply (target : Target) (reply : Except RemoteFailure UpgradePolicy)
    (result : Except UpgradeError GateCheck) : Prop where
  clear : result = .ok .clear ↔ ∃ policy, reply = .ok policy
  missing : ∀ gates, result = .ok (.missing gates) ↔
    ∃ failure, reply = .error failure ∧ failure.Reports gates
  failed : ∀ error, result = .error error ↔ ∃ failure, reply = .error failure ∧
    (∀ gates, ¬failure.Reports gates) ∧ error = .remote GateCheck.operation target.text failure
  /-- An error says what the failure of the dry run says, and may pass if that may. -/
  surfaced : ∀ failure error, reply = .error failure → result = .error error →
    error.message = "[check missing gate agreements] " ++ target.text ++ ": " ++ failure.message ∧
      error.isTransient = failure.isTransient
  /-- Gates that are written as the details of an error are found again. -/
  written : ∀ first rest, first.id ≠ "" → ∃ kept,
    Wire.details (.array ((first :: rest).map Wire.ofGate)) = .ok (some kept) ∧
      ∀ error : ApiError, error.details = some kept → reply = .error (.api error) →
        result = .ok (.missing (first :: rest))

section

variable {target : Target} {reply : Except RemoteFailure UpgradePolicy} {gates : List VersionGate}
  {error : UpgradeError} {failure : RemoteFailure}

theorem GateCheck.ofReply_eq_clear_iff :
    GateCheck.ofReply target reply = .ok .clear ↔ ∃ policy, reply = .ok policy := by
  cases reply with
  | ok policy => simp [ofReply]
  | error failure => cases hgates : failure.gates? <;> simp [ofReply, hgates]

theorem GateCheck.ofReply_eq_missing_iff :
    GateCheck.ofReply target reply = .ok (.missing gates) ↔
      ∃ failure, reply = .error failure ∧ failure.Reports gates := by
  simp only [← RemoteFailure.gates?_eq_some_iff]
  cases reply with
  | ok policy => simp [ofReply]
  | error failure => cases hgates : failure.gates? <;> simp [ofReply, hgates]

theorem GateCheck.ofReply_eq_error_iff :
    GateCheck.ofReply target reply = .error error ↔ ∃ failure, reply = .error failure ∧
      (∀ gates, ¬failure.Reports gates) ∧ error = .remote operation target.text failure := by
  simp only [← RemoteFailure.gates?_eq_none_iff]
  cases reply with
  | ok policy => simp [ofReply]
  | error failure => cases hgates : failure.gates? <;> simp [ofReply, hgates, eq_comm]

theorem tellsReply_ofReply : TellsReply target reply (GateCheck.ofReply target reply) where
  clear := GateCheck.ofReply_eq_clear_iff
  missing _ := GateCheck.ofReply_eq_missing_iff
  failed _ := GateCheck.ofReply_eq_error_iff
  surfaced := by
    rintro failure error rfl hresult
    obtain ⟨_, ⟨⟩, -, rfl⟩ := GateCheck.ofReply_eq_error_iff.mp hresult
    exact ⟨rfl, rfl⟩
  written := by
    intro first rest hid
    obtain ⟨kept, hkept, hgates⟩ := Wire.exists_details_ofGate (first :: rest)
    refine ⟨.array kept, hkept, ?_⟩
    rintro error hdetails rfl
    exact GateCheck.ofReply_eq_missing_iff.mpr ⟨_, rfl, .details hdetails hgates hid⟩

end

/-! ### Passes -/

/-- A pass ends with the failure of its dry run, and has neither agreed to a gate nor scheduled an
upgrade. -/
structure GivesUp (target : Target) (failure : RemoteFailure) (calls : List RemoteCall)
    (result : Except UpgradeError ReconcileOutcome) : Prop where
  result_eq : result = .error (.remote GateCheck.operation target.text failure)
  unchanged : ∀ call ∈ calls, call.agreedGateId? = none ∧ call.isCreation = false

section

variable {pageSize : Nat} {request : UpgradeRequest} {now : Instant} {transcript : Transcript}
  {failure : RemoteFailure} {plan : Plan} {result : Except UpgradeError ReconcileOutcome}

theorem dryRun_not_mem {reply : request.dryRun.Reply}
    (hcalls : ∀ call ∈ transcript.calls, call.isDryRun = false) :
    ⟨request.dryRun, reply⟩ ∉ transcript := by
  intro hmem
  cases hcalls request.dryRun (List.mem_map_of_mem hmem)

theorem ResolvesGates.of_dryRun_failed {found : Except UpgradeError (List String)}
    (h : ResolvesGates request transcript found)
    (hmem : ⟨request.dryRun, .error failure⟩ ∈ transcript) (hgates : failure.gates? = none) :
    transcript = [⟨request.dryRun, .error failure⟩] ∧
      found = .error (.remote GateCheck.operation request.target.text failure) := by
  have heq : ∀ {reply : request.dryRun.Reply},
      (⟨request.dryRun, .error failure⟩ : RemoteExchange) = ⟨request.dryRun, reply⟩ →
        reply = .error failure := by
    rintro _ ⟨⟩
    rfl
  -- Any way but the first starts with a dry run that passed or reported gates.
  cases h with
  | failed =>
    cases heq (List.mem_singleton.mp hmem)
    exact ⟨rfl, rfl⟩
  | clear policy => cases heq (List.mem_singleton.mp hmem)
  | automatic hreported =>
    cases heq (List.mem_singleton.mp hmem)
    cases hgates.symm.trans hreported
  | refused hreported =>
    cases heq (List.mem_singleton.mp hmem)
    cases hgates.symm.trans hreported
  | agreed hreported _ _ hrest =>
    rcases List.mem_cons.mp hmem with hhead | hmem
    · cases heq hhead
      cases hgates.symm.trans hreported
    · refine absurd hmem (dryRun_not_mem fun call hcall => ?_)
      exact isDryRun_of_mem_agreementCalls (hrest.mem_script hcall)

theorem eq_none_of_mem_deletionCalls {target : Target} {policyIds : List String} {call : RemoteCall}
    (h : call ∈ deletionCalls target policyIds) :
    call.agreedGateId? = none ∧ call.isCreation = false := by
  obtain ⟨policyId, -, rfl⟩ := List.mem_map.mp h
  exact ⟨rfl, rfl⟩

theorem Changes.givesUp (h : Changes request plan transcript result)
    (hmem : ⟨request.dryRun, .error failure⟩ ∈ transcript) (hgates : failure.gates? = none) :
    GivesUp request.target failure transcript.calls result := by
  have hdeletions : ∀ {deletions : Transcript}, deletions.calls =
      deletionCalls request.target (plan.cancel.map ExistingUpgrade.id) →
        ⟨request.dryRun, .error failure⟩ ∉ deletions := by
    intro deletions hcancel
    exact dryRun_not_mem fun call hcall => isDryRun_of_mem_deletionCalls (hcancel ▸ hcall)
  have hcreation : ∀ {reply : request.creation.Reply},
      (⟨request.dryRun, .error failure⟩ : RemoteExchange) ∉ [⟨request.creation, reply⟩] :=
    dryRun_not_mem (List.forall_mem_singleton.mpr rfl)
  cases h with
  | uncancelled hcancel =>
    refine absurd hmem (dryRun_not_mem fun call hcall => ?_)
    exact isDryRun_of_mem_deletionCalls (hcancel.mem_script hcall)
  | satisfied _ hcancel => exact absurd hmem (hdeletions hcancel)
  | unresolved _ hcancel _ hresolves =>
    have hmem := (List.mem_append.mp hmem).resolve_left (hdeletions hcancel)
    obtain ⟨rfl, herror⟩ := hresolves.of_dryRun_failed hmem hgates
    cases herror
    refine ⟨rfl, ?_⟩
    rw [calls_append, hcancel]
    intro call hcall
    rcases List.mem_append.mp hcall with hcall | hcall
    · exact eq_none_of_mem_deletionCalls hcall
    · obtain rfl := List.mem_singleton.mp hcall
      exact ⟨rfl, rfl⟩
  | uncreated _ hcancel _ hresolves =>
    have hmem := (List.mem_append.mp hmem).resolve_left (hdeletions hcancel)
    have hmem := (List.mem_append.mp hmem).resolve_right hcreation
    cases (hresolves.of_dryRun_failed hmem hgates).2
  | scheduled _ hcancel _ hresolves =>
    have hmem := (List.mem_append.mp hmem).resolve_left (hdeletions hcancel)
    have hmem := (List.mem_append.mp hmem).resolve_right hcreation
    cases (hresolves.of_dryRun_failed hmem hgates).2

theorem Reconciles.givesUp (h : Reconciles pageSize request now transcript result)
    (hmem : ⟨request.dryRun, .error failure⟩ ∈ transcript) (hgates : failure.gates? = none) :
    GivesUp request.target failure transcript.calls result := by
  cases h with
  | unplanned hplan =>
    refine absurd hmem (dryRun_not_mem fun call hcall => ?_)
    exact RemoteCall.isDryRun_of_isReading (hplan.isReading_of_mem_calls hcall)
  | @planned front rest plan _ hplan hchange =>
    have hreading : ∀ call ∈ front.calls, call.isReading = true :=
      fun call => hplan.isReading_of_mem_calls
    have hfront : ⟨request.dryRun, .error failure⟩ ∉ front := dryRun_not_mem fun call hcall =>
      RemoteCall.isDryRun_of_isReading (hreading call hcall)
    obtain ⟨hresult, hchanges⟩ :=
      hchange.givesUp ((List.mem_append.mp hmem).resolve_left hfront) hgates
    refine ⟨hresult, ?_⟩
    rw [calls_append]
    intro call hcall
    rcases List.mem_append.mp hcall with hcall | hcall
    · exact (RemoteCall.eq_none_of_isReading (hreading call hcall)).2
    · exact hchanges call hcall

end

/-- **The reply decides.** For every remote side and whatever the dry run brings back. -/
theorem gateCheck_tellsReply {σ : Type} (respond : σ → (call : RemoteCall) → call.Reply × σ)
    (remote : σ) (pageSize : Nat) (request : UpgradeRequest) (now : Instant) :
    let check := ((GateCheck.run request.target request.desired).run.play respond remote).1
    let explanation := ((explainGates request.target request.desired).run.play respond remote).1
    let pass := (reconcile pageSize request now).run
    let transcript : Transcript := pass.transcript respond remote
    (check.questions = [request.dryRun] ∧
        TellsReply request.target (respond remote request.dryRun).1 check.value) ∧
      (∀ version, Release.supportedVersion request.desired.rawId = .ok version →
        explanation.questions = [request.dryRun] ∧
          ∀ error, check.value = .error error → explanation.value = .error error) ∧
      ∀ failure, ⟨request.dryRun, .error failure⟩ ∈ transcript →
        (∀ gates, ¬failure.Reports gates) →
          GivesUp request.target failure transcript.calls (pass.play respond remote).1.value := by
  intro check explanation pass transcript
  have hcheck : check.questions = [request.dryRun] ∧
      check.value = GateCheck.ofReply request.target (respond remote request.dryRun).1 := by
    obtain ⟨calls, hruns, hquestions, hanswered⟩ :=
      Procedure.exists_runs respond (GateCheck.run request.target request.desired) remote
    obtain ⟨reply, rfl, hvalue⟩ := GateCheck.runs_run_iff.mp hruns
    obtain rfl : reply = (respond remote request.dryRun).1 := hanswered.1
    exact ⟨hquestions.symm, hvalue⟩
  refine ⟨⟨hcheck.1, ?_⟩, ?_, ?_⟩
  · rw [hcheck.2]
    exact tellsReply_ofReply
  · intro version hversion
    obtain ⟨calls, hruns, hquestions, hanswered⟩ :=
      Procedure.exists_runs respond (explainGates request.target request.desired) remote
    obtain ⟨reply, rfl, hvalue⟩ := runs_explainGates hversion hruns
    obtain rfl : reply = (respond remote request.dryRun).1 := hanswered.1
    refine ⟨hquestions.symm, ?_⟩
    intro error herror
    refine hvalue.trans ?_
    rw [← hcheck.2, herror]
    rfl
  · intro failure hmem hreports
    have hpass : Reconciles pageSize request now transcript (pass.play respond remote).1.value :=
      reconciles_of_runs (pass.runs_transcript remote)
    exact hpass.givesUp hmem (RemoteFailure.gates?_eq_none_iff.mpr hreports)

/-- A gate with a field that is not known and a gate in array form are both read. With an empty
object in front of them, which reads as a gate without id, the failure of the dry run ends all. -/
theorem gateCheck_tellsReply_accidentalGates :
    let read : List Json := [.object [("id", .string "999"), ("kind", .null)],
      .array [.string "1000", .string "4.14"]]
    let failure (elements : List Json) : RemoteFailure :=
      .api { status := 503, reason := "maintenance", details := some (.array elements) }
    let remote (elements : List Json) : MemoryRemote :=
      { failureRules := [{ name := "dry_run", failure := failure elements }] }
    let unread := .object [] :: read
    let version : Version := { major := 4, minor := 14, patch := 1, preRelease := [] }
    let desired : DesiredVersion := { rawId := "4.14.1", version, channelGroup := none }
    let request : UpgradeRequest := { target := .cluster "123", desired, consent := some "4.14" }
    let check (elements : List Json) := ((GateCheck.run request.target request.desired).run.play
      MemoryRemote.respond (remote elements)).1.value
    let error : UpgradeError := .remote GateCheck.operation request.target.text (failure unread)
    let pass := (reconcile 100 request .epoch).run
    let transcript : Transcript := pass.transcript MemoryRemote.respond (remote unread)
    check read = .ok (.missing [{ id := "999" }, { id := "1000", versionPrefix := "4.14" }]) ∧
      check unread = .error error ∧
      ((explainGates request.target request.desired).run.play MemoryRemote.respond
        (remote unread)).1.value = .error error ∧
      transcript.calls = [.listPolicies request.target 1 100, request.dryRun] ∧
      GivesUp request.target (failure unread) transcript.calls
        (pass.play MemoryRemote.respond (remote unread)).1.value := by
  intro read failure remote unread version desired request check error pass transcript
  obtain ⟨⟨-, hread⟩, -, -⟩ :=
    gateCheck_tellsReply MemoryRemote.respond (remote read) 100 request .epoch
  obtain ⟨⟨-, hunread⟩, hexplains, hgivesUp⟩ :=
    gateCheck_tellsReply MemoryRemote.respond (remote unread) 100 request .epoch
  have hnone : ∀ gates, ¬(failure unread).Reports gates := RemoteFailure.gates?_eq_none_iff.mp rfl
  have herror := (hunread.failed error).mpr ⟨_, rfl, hnone, rfl⟩
  obtain ⟨-, hsame⟩ := hexplains version (ok_of_toOption_eq_some (by decide +kernel))
  have hcalls : transcript.calls = [.listPolicies request.target 1 100, request.dryRun] := by
    unfold transcript pass reconcile previewPlan Listing.upgrades Listing.policies
    dsimp only
    rw [Listing.drainFrom]
    decide +kernel
  have hunchanging : ∀ call ∈ transcript.calls,
      call.deletedId? = none ∧ call.isCreation = false := by
    rw [hcalls]
    decide
  have hmem : request.dryRun ∈ transcript.calls := by
    rw [hcalls]
    exact .tail _ (.head _)
  have hdryRun : ⟨request.dryRun, .error (failure unread)⟩ ∈ transcript :=
    MemoryRemote.mem_transcript_of_unchanging rfl hunchanging hmem rfl
  refine ⟨?_, herror, ?_, hcalls, ?_⟩
  · exact (hread.missing _).mpr
      ⟨_, rfl, .details rfl (.cons rfl (.cons rfl .nil)) (by decide)⟩
  · exact hsame error herror
  · unfold transcript pass
    exact hgivesUp _ hdryRun hnone

end ClusterUpgrade
