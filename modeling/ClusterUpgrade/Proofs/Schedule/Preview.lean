import ClusterUpgrade.Proofs.Schedule.MemoryChanges

/-!
Previews. Main statement: `reconcile_asForetold`. A preview and an explanation of the gates, both of
which only read, tell what a pass over the same remote side in memory is going to do. The readings of
a preview and of the pass are one run, and the dry run of the explanation has the reply of the one
that the pass makes behind its deletions.
-/

namespace ClusterUpgrade

open Transcript Dialogue

variable {pageSize : Nat} {request : UpgradeRequest} {target : Target} {desired : DesiredVersion}
  {now : Instant} {plan : Plan} {remote final : MemoryRemote} {transcript : Transcript}
  {explanation : Except UpgradeError (Option String)}
  {result : Except UpgradeError ReconcileOutcome} {questions reading : List RemoteCall}

/-! ### Texts -/

/-- The text that numbers gates from one on, under a heading. -/
def gateListing (gates : List VersionGate) : String :=
  "\nMissing required acknowledgements to schedule upgrade."
    ++ "\nRead the below description and acknowledge to proceed with upgrade."
    ++ "\nDescription:"
    ++ String.join ((gates.zipIdx 1).map fun (gate, number) =>
      "\n" ++ Text.natText number ++ ") " ++ gate.description ++ "\n"
        ++ (if gate.warning = "" then "" else "   Warning:     " ++ gate.warning ++ "\n")
        ++ "   URL:         " ++ gate.documentationUrl ++ "\n")

theorem VersionGate.entries_eq_join (position : Nat) (gates : List VersionGate) :
    entries position gates =
      String.join ((gates.zipIdx position).map fun (gate, number) => entry number gate) := by
  induction gates generalizing position with
  | nil => rfl
  | cons gate rest ih => rw [entries, ih, List.zipIdx_cons, List.map_cons, String.join_cons]

/-- **A description numbers the gates that need consent, in order.** -/
theorem VersionGate.describe_eq_gateListing (gates : List VersionGate) :
    describe gates = gateListing (gates.filter (!·.isAutomatic)) := by
  have houtstanding : outstanding gates = gates.filter (!·.isAutomatic) := rfl
  unfold describe gateListing
  rw [entries_eq_join, houtstanding]
  rfl

/-! ### What is foretold -/

/-- What a preview and an explanation of the gates say of a pass: the calls that it makes, its result,
and the remote side that it leaves. -/
structure Foretold (request : UpgradeRequest) (remote : MemoryRemote)
    (preview : Except UpgradeError Plan) (explanation : Except UpgradeError (Option String))
    (questions : List RemoteCall) (result : Except UpgradeError ReconcileOutcome)
    (final : MemoryRemote) : Prop where
  unplanned : ∀ error, preview = .error error →
    result = .error error ∧ final = remote ∧ ∀ call ∈ questions, call.isReadOnly = true
  cancelled : ∀ plan, preview = .ok plan →
    questions.filterMap RemoteCall.deletedId? = plan.cancel.map ExistingUpgrade.id
  satisfied : ∀ plan, preview = .ok plan → ∀ kept cancelled,
    result = .ok (.alreadyScheduled kept cancelled) ↔
      plan.isSatisfied = true ∧ kept = plan.keep ∧
        cancelled = plan.cancel.map ExistingUpgrade.id
  ungated : ∀ plan, preview = .ok plan → plan.isSatisfied = false → explanation = .ok none →
    (∃ policy, result = .ok (.scheduled policy (plan.cancel.map ExistingUpgrade.id) [])) ∧
      questions.filterMap RemoteCall.agreedGateId? = []
  /-- The explanation numbers the reported gates that need consent, all of them and no others. -/
  gated : ∀ plan text, preview = .ok plan → plan.isSatisfied = false →
    explanation = .ok (some text) →
      ∃ failure reported gates, remote.dryRunReply request = .error failure ∧
        failure.gates? = some reported ∧ gates = reported.filter (!·.isAutomatic) ∧ gates ≠ [] ∧
        text = gateListing gates ∧
        (consentCovers request.consent request.desired.gatePrefix gates = false →
          ∃ asked rest, result = .error (.consentRequired request.target request.desired.rawId asked)
            ∧ asked.description = text ++ rest) ∧
        (consentCovers request.consent request.desired.gatePrefix gates = true →
          (∃ policy, result = .ok (.scheduled policy (plan.cancel.map ExistingUpgrade.id)
            (gates.map VersionGate.id))) ∧
          questions.filterMap RemoteCall.agreedGateId? = gates.map VersionGate.id)
  unexplained : ∀ plan error, preview = .ok plan → plan.isSatisfied = false →
    explanation = .error error → result = .error error

/-! ### Explanations -/

/-- What the operator is told about the gates that a check finds. -/
def GateCheck.report? : GateCheck → Option String
  | .clear => none
  | .missing gates =>
    if (VersionGate.outstanding gates).isEmpty then none
    else some (VersionGate.describe (VersionGate.outstanding gates))

theorem runs_explainGates {version : Version}
    (hversion : Release.supportedVersion desired.rawId = .ok version)
    (h : (explainGates target desired).Runs transcript explanation) :
    ∃ reply : Except RemoteFailure UpgradePolicy,
      transcript = [⟨.dryRunPolicy target (.manual desired.rawId), reply⟩] ∧
        explanation = (GateCheck.ofReply target reply).map GateCheck.report? := by
  rw [explainGates, hversion, Procedure.runs_ofExcept_ok_bind_iff, Procedure.runs_bind_iff] at h
  rcases h with ⟨error, hrun, rfl⟩ | ⟨first, second, check, rfl, hrun, hrest⟩
  · obtain ⟨reply, rfl, hreply⟩ := GateCheck.runs_run_iff.mp hrun
    exact ⟨reply, rfl, by rw [← hreply]; rfl⟩
  · obtain ⟨reply, rfl, hreply⟩ := GateCheck.runs_run_iff.mp hrun
    have hpure : second = [] ∧ explanation = .ok check.report? := by
      cases check with
      | clear => exact Procedure.runs_pure_iff.mp hrest
      | missing gates => exact Procedure.runs_pure_iff.mp hrest
    obtain ⟨rfl, rfl⟩ := hpure
    exact ⟨reply, rfl, by rw [← hreply]; rfl⟩

theorem explainGates_of_memory {version : Version}
    (hversion : Release.supportedVersion request.desired.rawId = .ok version) :
    ((explainGates request.target request.desired).run.play MemoryRemote.respond remote).1.value =
      (GateCheck.ofReply request.target (remote.dryRunReply request)).map
        GateCheck.report? := by
  obtain ⟨transcript, hruns, -, hanswered⟩ := Procedure.exists_runs MemoryRemote.respond
    (explainGates request.target request.desired) remote
  obtain ⟨reply, rfl, hexplanation⟩ := runs_explainGates hversion hruns
  have hreply : reply = remote.dryRunReply request := hanswered.1
  rw [hexplanation, hreply]

theorem describe_outstanding (gates : List VersionGate) :
    VersionGate.describe (VersionGate.outstanding gates) =
      gateListing (VersionGate.outstanding gates) := by
  have htwice : (VersionGate.outstanding gates).filter (!·.isAutomatic) =
      VersionGate.outstanding gates := by
    rw [VersionGate.outstanding, List.filter_filter]
    exact List.filter_congr fun gate _ => Bool.and_self _
  rw [VersionGate.describe_eq_gateListing, htwice]

theorem ConsentRequest.exists_description (asked : ConsentRequest) :
    ∃ rest, asked.description = VersionGate.describe asked.gates ++ rest := by
  unfold description
  simp only [String.append_assoc]
  exact ⟨_, rfl⟩

/-- What a reply to the dry run comes to: what the operator is told, and the gates that are agreed to
or why none is. -/
inductive Explains (request : UpgradeRequest) (reply : Except RemoteFailure UpgradePolicy) :
    Except UpgradeError (Option String) → Except UpgradeError (List VersionGate) → Prop where
  | failed (error : UpgradeError) : Explains request reply (.error error) (.error error)
  | ungated : Explains request reply (.ok none) (.ok [])
  | covered {failure : RemoteFailure} {reported : List VersionGate} (hreply : reply = .error failure)
      (hgates : failure.gates? = some reported) (hsome : VersionGate.outstanding reported ≠ [])
      (hconsent : consentCovers request.consent request.desired.gatePrefix
        (VersionGate.outstanding reported) = true) :
      Explains request reply (.ok (some (VersionGate.describe (VersionGate.outstanding reported))))
        (.ok (VersionGate.outstanding reported))
  | uncovered {failure : RemoteFailure} {reported : List VersionGate}
      (hreply : reply = .error failure) (hgates : failure.gates? = some reported)
      (hsome : VersionGate.outstanding reported ≠ [])
      (hconsent : consentCovers request.consent request.desired.gatePrefix
        (VersionGate.outstanding reported) = false) :
      Explains request reply (.ok (some (VersionGate.describe (VersionGate.outstanding reported))))
        (.error (.consentRequired request.target request.desired.rawId
          { gates := VersionGate.outstanding reported
            token := request.consent
            common := request.desired.gatePrefix }))

theorem explains_reply (reply : Except RemoteFailure UpgradePolicy) :
    Explains request reply ((GateCheck.ofReply request.target reply).map GateCheck.report?)
      (request.agreements reply) := by
  cases reply with
  | ok policy => exact .ungated
  | error failure =>
    cases hgates : failure.gates? with
    | none =>
      rw [UpgradeRequest.agreements, GateCheck.ofReply, hgates]
      exact .failed _
    | some reported =>
      have hmissing : GateCheck.ofReply request.target (.error failure) = .ok (.missing reported) := by
        rw [GateCheck.ofReply, hgates]
      rw [agreements_of_gates hgates, hmissing]
      by_cases houtstanding : VersionGate.outstanding reported = []
      · have hnone : GateCheck.report? (.missing reported) = none := by
          rw [GateCheck.report?, houtstanding]
          rfl
        rw [if_pos (.inl houtstanding), houtstanding, Except.map, hnone]
        exact .ungated
      · have hsome : GateCheck.report? (.missing reported) =
            some (VersionGate.describe (VersionGate.outstanding reported)) := by
          rw [GateCheck.report?, if_neg (mt List.isEmpty_iff.mp houtstanding)]
        rw [Except.map, hsome]
        cases hconsent : consentCovers request.consent request.desired.gatePrefix
            (VersionGate.outstanding reported) with
        | true =>
          rw [if_pos (.inr rfl)]
          exact .covered rfl hgates houtstanding hconsent
        | false =>
          rw [if_neg (by simp [houtstanding])]
          exact .uncovered rfl hgates houtstanding hconsent

/-! ### The pass -/

theorem Previews.supported (h : Previews pageSize target desired now transcript (.ok plan)) :
    ∃ version, Release.supportedVersion desired.rawId = .ok version := by
  cases h with
  | read hversion => exact ⟨_, hversion⟩

theorem isReadOnly_of_isReading {call : RemoteCall} (h : call.isReading = true) :
    call.isReadOnly = true := by
  cases call with
  | listPolicies => rfl
  | policyStatus => rfl
  | _ => cases h

theorem CarriesOut.deleted {calls : List RemoteCall}
    (h : CarriesOut request plan remote calls result final) :
    calls.filterMap RemoteCall.deletedId? = plan.cancel.map ExistingUpgrade.id := by
  cases h with
  | satisfied => exact filterMap_deletedId?_deletionCalls
  | refused =>
    rw [List.filterMap_append, filterMap_deletedId?_deletionCalls]
    exact List.append_nil _
  | scheduled =>
    rw [List.filterMap_append, List.filterMap_append, filterMap_deletedId?_deletionCalls,
      List.filterMap_cons_none rfl, filterMap_deletedId?_agreementCalls]
    exact List.append_nil _

theorem CarriesOut.refused_of {calls : List RemoteCall} {error : UpgradeError}
    (h : CarriesOut request plan remote calls result final) (hkeep : plan.isSatisfied = false)
    (hgates : request.agreements (remote.dryRunReply request) = .error error) :
    result = .error error := by
  cases h with
  | satisfied hsatisfied => cases hsatisfied.symm.trans hkeep
  | refused _ hrefused =>
    cases hrefused.symm.trans hgates
    rfl
  | scheduled _ hagreed => cases hagreed.symm.trans hgates

theorem CarriesOut.scheduled_of {calls : List RemoteCall} {gates : List VersionGate}
    (h : CarriesOut request plan remote calls result final) (hkeep : plan.isSatisfied = false)
    (hgates : request.agreements (remote.dryRunReply request) = .ok gates) :
    (∃ policy, result = .ok (.scheduled policy (plan.cancel.map ExistingUpgrade.id)
      (gates.map VersionGate.id))) ∧
      calls.filterMap RemoteCall.agreedGateId? = gates.map VersionGate.id := by
  cases h with
  | satisfied hsatisfied => cases hsatisfied.symm.trans hkeep
  | refused _ hrefused => cases hrefused.symm.trans hgates
  | scheduled _ hagreed =>
    cases hagreed.symm.trans hgates
    refine ⟨⟨_, rfl⟩, ?_⟩
    rw [List.filterMap_append, List.filterMap_append, filterMap_agreedGateId?_deletionCalls,
      List.filterMap_cons_none rfl, filterMap_agreedGateId?_agreementCalls]
    exact List.append_nil _

theorem Foretold.of_error {error : UpgradeError}
    (hquestions : ∀ call ∈ questions, call.isReadOnly = true) :
    Foretold request remote (.error error) explanation questions (.error error) remote where
  unplanned := by
    rintro _ ⟨⟩
    exact ⟨rfl, rfl, hquestions⟩
  cancelled := nofun
  satisfied := nofun
  ungated := nofun
  gated := nofun
  unexplained := nofun

theorem CarriesOut.foretold {calls : List RemoteCall}
    (h : CarriesOut request plan remote calls result final)
    (hreading : ∀ call ∈ reading, call.isReading = true)
    (hexplains : Explains request (remote.dryRunReply request) explanation
      (request.agreements (remote.dryRunReply request))) :
    Foretold request remote (.ok plan) explanation (reading ++ calls) result final := by
  obtain ⟨hdeleted, hagreed, -⟩ := kinds_of_reading_append calls hreading
  generalize hagreements : request.agreements (remote.dryRunReply request) = agreements at hexplains
  constructor
  · intro error herror
    cases herror
  · rintro _ ⟨⟩
    rw [hdeleted, h.deleted]
  · rintro _ ⟨⟩ kept cancelled
    cases h with
    | satisfied hkeep => simp [hkeep, eq_comm]
    | refused hkeep => simp [hkeep]
    | scheduled hkeep => simp [hkeep]
  · rintro _ ⟨⟩ hkeep rfl
    cases hexplains
    rw [hagreed]
    exact h.scheduled_of hkeep hagreements
  · rintro _ text ⟨⟩ hkeep rfl
    rw [hagreed]
    cases hexplains with
    | @covered failure reported hreply hgates hsome hconsent =>
      refine ⟨failure, reported, _, hreply, hgates, rfl, hsome, describe_outstanding _, ?_, ?_⟩
      · intro huncovered
        cases hconsent.symm.trans huncovered
      · intro _
        exact h.scheduled_of hkeep hagreements
    | @uncovered failure reported hreply hgates hsome hconsent =>
      refine ⟨failure, reported, _, hreply, hgates, rfl, hsome, describe_outstanding _, ?_, ?_⟩
      · intro _
        obtain ⟨rest, hdescription⟩ := ConsentRequest.exists_description
          { gates := VersionGate.outstanding reported
            token := request.consent
            common := request.desired.gatePrefix }
        exact ⟨_, rest, h.refused_of hkeep hagreements, hdescription⟩
      · intro hcovered
        cases hconsent.symm.trans hcovered
  · rintro _ error ⟨⟩ hkeep rfl
    cases hexplains
    exact h.refused_of hkeep hagreements

theorem foretold_of_runs (hallows : remote.AllowsChanges)
    (h : (reconcile pageSize request now).Runs transcript result)
    (hanswered : Answered MemoryRemote.respond remote transcript final) :
    Foretold request remote
      ((previewPlan pageSize request.target request.desired now).run.play MemoryRemote.respond
        remote).1.value
      ((explainGates request.target request.desired).run.play MemoryRemote.respond remote).1.value
      transcript.calls result final := by
  cases reconciles_of_runs h with
  | unplanned hplan =>
    have hpreview := (Procedure.play_of_runs (runs_of_previews hplan) hanswered).1
    obtain rfl := hplan.unchanged hanswered
    rw [hpreview]
    exact .of_error fun call hcall => isReadOnly_of_isReading (hplan.isReading_of_mem_calls hcall)
  | @planned front rest plan _ hplan hchange =>
    obtain ⟨middle, hfront, hchanges⟩ := answered_append_iff.mp hanswered
    have hpreview := (Procedure.play_of_runs (runs_of_previews hplan) hfront).1
    have hreading : ∀ call ∈ front.calls, call.isReading = true :=
      fun call => hplan.isReading_of_mem_calls
    obtain rfl := hplan.unchanged hfront
    obtain ⟨version, hversion⟩ := hplan.supported
    rw [hpreview, calls_append, explainGates_of_memory hversion]
    exact (hchange.carriesOut hallows hchanges).foretold hreading (explains_reply _)

/-- **The preview holds.** For every remote side that makes no change fail, whatever else it makes
fail, and whatever consent is given. -/
theorem reconcile_asForetold (hallows : remote.AllowsChanges) (pageSize : Nat)
    (request : UpgradeRequest) (now : Instant) :
    Foretold request remote
      ((previewPlan pageSize request.target request.desired now).run.play MemoryRemote.respond
        remote).1.value
      ((explainGates request.target request.desired).run.play MemoryRemote.respond remote).1.value
      ((reconcile pageSize request now).run.play MemoryRemote.respond remote).1.questions
      ((reconcile pageSize request now).run.play MemoryRemote.respond remote).1.value
      ((reconcile pageSize request now).run.play MemoryRemote.respond remote).2 := by
  obtain ⟨transcript, hruns, hquestions, hanswered⟩ :=
    Procedure.exists_runs MemoryRemote.respond (reconcile pageSize request now) remote
  rw [← hquestions]
  exact foretold_of_runs hallows hruns hanswered

/-- Of two reported gates, one applies by itself; the token covers the other one. -/
theorem scheduled_behind_explained_gate :
    let policy : UpgradePolicy := { id := "7", version := "4.14.2", kind := .platform }
    let gates : Json := .array
      [.object [("id", .string "a"), ("sts_only", .bool true)], .object [("id", .string "b")]]
    let rule : FailureRule :=
      { name := "dry_run", failure := .api { status := 400, details := some gates } }
    let remote : MemoryRemote :=
      { policies := [{ policy, status := { state := .scheduled } }], failureRules := [rule] }
    let version : Version := { major := 4, minor := 14, patch := 2, preRelease := [] }
    let request : UpgradeRequest :=
      { target := .cluster "alpha"
        desired := { rawId := "4.14.2", version, channelGroup := none }
        consent := some " 4.14 " }
    let pass := (reconcile 100 request .epoch).run.play MemoryRemote.respond remote
    remote.AllowsChanges ∧
      (∃ policy, pass.1.value = .ok (.scheduled policy ["7"] ["b"])) ∧
      pass.1.questions.filterMap RemoteCall.agreedGateId? = ["b"] := by
  intro policy gates rule remote version request
  have hallows : remote.AllowsChanges := by
    intro call hcall
    cases call with
    | deletePolicy => rfl
    | createPolicy => rfl
    | agreeToGate => rfl
    | _ => cases hcall
  have hpreview : ((previewPlan 100 request.target request.desired .epoch).run.play
      MemoryRemote.respond remote).1.value = .ok { cancel := remote.policies } := by
    apply ok_of_toOption_eq_some
    unfold previewPlan Listing.upgrades Listing.policies
    rw [Listing.drainFrom]
    decide +kernel
  have hversion : Release.supportedVersion request.desired.rawId = .ok version :=
    ok_of_toOption_eq_some (by decide +kernel)
  have hgates : rule.failure.gates? = some [{ id := "a", isAutomatic := true }, { id := "b" }] := by
    rfl
  have hreply : remote.dryRunReply request = .error rule.failure := rfl
  have hexplanation : ((explainGates request.target request.desired).run.play
      MemoryRemote.respond remote).1.value = .ok (some (VersionGate.describe [{ id := "b" }])) := by
    rw [explainGates_of_memory hversion, hreply, GateCheck.ofReply, hgates]
    rfl
  obtain ⟨failure, reported, _, hfailure, hreported, rfl, -, -, -, hcovered⟩ :=
    (reconcile_asForetold hallows 100 request .epoch).gated _ _ hpreview rfl hexplanation
  cases hreply.symm.trans hfailure
  cases hgates.symm.trans hreported
  have hcovers : consentCovers request.consent request.desired.gatePrefix [{ id := "b" }] = true := by
    decide +kernel
  exact ⟨hallows, hcovered hcovers⟩

end ClusterUpgrade
