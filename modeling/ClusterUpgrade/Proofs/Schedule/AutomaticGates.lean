import ClusterUpgrade.Proofs.Procedure.Calls
import ClusterUpgrade.Proofs.Schedule.CallOrder
import ClusterUpgrade.Remote.Memory
import Mathlib.Data.List.Forall2

/-!
Gates that apply by themselves. Main statement: `reconcile_ignoresAutomaticGates`. Of the gates that
a dry run reports only those that need consent are ever looked at, so two remote sides that differ in
the other ones see the same calls and bring about the same results.

The two sides give two transcripts whose exchanges are pairwise alike. A procedure without dry runs
cannot tell them apart, as they are equal there, and behind a gate check only the outstanding gates
are passed on; `IgnoresAutomatic.bind` puts a pass together from such parts.
-/

namespace ClusterUpgrade

open Transcript Dialogue

/-- Two exchanges that differ at most in the automatic gates that a refused dry run reports. -/
inductive RemoteExchange.Alike : RemoteExchange → RemoteExchange → Prop where
  | same (exchange : RemoteExchange) : Alike exchange exchange
  | refused {target : Target} {draft : PolicyDraft} {failure failure' : RemoteFailure}
      {gates gates' : List VersionGate} (hgates : failure.gates? = some gates)
      (hgates' : failure'.gates? = some gates')
      (houtstanding : VersionGate.outstanding gates = VersionGate.outstanding gates') :
      Alike ⟨.dryRunPolicy target draft, .error failure⟩
        ⟨.dryRunPolicy target draft, .error failure'⟩

/-- Two remote sides that differ at most in the automatic gates that they report. -/
def DifferInAutomaticGates {σ : Type} (first second : σ → (call : RemoteCall) → call.Reply × σ) :
    Prop :=
  ∀ remote call, RemoteExchange.Alike ⟨call, (first remote call).1⟩ ⟨call, (second remote call).1⟩ ∧
    (first remote call).2 = (second remote call).2

/-- Against both remote sides a procedure has the same result, makes the same calls, and leaves the
same behind. -/
def Procedure.PlaysAlike {σ α : Type} (first second : σ → (call : RemoteCall) → call.Reply × σ)
    (remote : σ) (procedure : Procedure α) : Prop :=
  (procedure.run.play first remote).1.value = (procedure.run.play second remote).1.value ∧
    (procedure.run.play first remote).1.questions =
      (procedure.run.play second remote).1.questions ∧
    (procedure.run.play first remote).2 = (procedure.run.play second remote).2

variable {σ α β : Type} {first second : σ → (call : RemoteCall) → call.Reply × σ}
  {transcript other : Transcript}

theorem RemoteExchange.Alike.eq_of_not_isDryRun {exchange exchange' : RemoteExchange}
    (h : exchange.Alike exchange') (hcall : exchange.1.isDryRun = false) : exchange = exchange' := by
  cases h with
  | same => rfl
  | refused => cases hcall

theorem RemoteExchange.Alike.call_eq {exchange exchange' : RemoteExchange}
    (h : exchange.Alike exchange') : exchange.1 = exchange'.1 := by
  cases h <;> rfl

theorem eq_of_alike (h : List.Forall₂ RemoteExchange.Alike other transcript)
    (hcalls : ∀ call ∈ transcript.calls, call.isDryRun = false) : other = transcript := by
  induction h with
  | nil => rfl
  | cons hexchange _ ih =>
    obtain ⟨hcall, hcalls⟩ := List.forall_mem_cons.mp hcalls
    rw [ih hcalls, hexchange.eq_of_not_isDryRun (hexchange.call_eq ▸ hcall)]

theorem map_fst_of_alike (h : List.Forall₂ RemoteExchange.Alike other transcript) :
    other.map Sigma.fst = transcript.map Sigma.fst := by
  induction h with
  | nil => rfl
  | cons hexchange _ ih => rw [List.map_cons, List.map_cons, ih, hexchange.call_eq]

/-- What one side has answered has its like on the other side. -/
theorem exists_answered_of_differ (hdiffer : DifferInAutomaticGates first second) {remote final : σ}
    (hanswered : Answered second remote transcript final) :
    ∃ other, List.Forall₂ RemoteExchange.Alike other transcript ∧
      Answered first remote other final := by
  induction transcript generalizing remote with
  | nil => exact ⟨[], .nil, hanswered⟩
  | cons exchange rest ih =>
    obtain ⟨call, reply⟩ := exchange
    obtain ⟨hreply, hrest⟩ := hanswered
    obtain rfl : reply = (second remote call).1 := hreply
    obtain ⟨halike, hstate⟩ := hdiffer remote call
    obtain ⟨others, hothers, hanswers⟩ := ih hrest
    refine ⟨⟨call, (first remote call).1⟩ :: others, .cons halike hothers, rfl, ?_⟩
    rwa [hstate]

/-! ### Procedures -/

namespace Procedure

/-- The procedure runs along every transcript that is alike to one of its transcripts, to the same
result. -/
def IgnoresAutomatic (procedure : Procedure α) : Prop :=
  ∀ (other transcript : Transcript) result, List.Forall₂ RemoteExchange.Alike other transcript →
    procedure.Runs transcript result → procedure.Runs other result

variable {procedure : Procedure α} {next : α → Procedure β}

theorem IgnoresAutomatic.playsAlike (h : IgnoresAutomatic procedure)
    (hdiffer : DifferInAutomaticGates first second) (remote : σ) :
    procedure.PlaysAlike first second remote := by
  obtain ⟨transcript, hruns, hquestions, hanswered⟩ := exists_runs second procedure remote
  obtain ⟨other, halike, hothers⟩ := exists_answered_of_differ hdiffer hanswered
  obtain ⟨hvalue, hcalls, hfinal⟩ := play_of_runs (h other transcript _ halike hruns) hothers
  refine ⟨hvalue, ?_, hfinal⟩
  rw [hcalls, map_fst_of_alike halike, hquestions]

theorem Avoids.ignoresAutomatic (h : Avoids RemoteCall.isDryRun procedure) :
    IgnoresAutomatic procedure := by
  intro other transcript result halike hruns
  rwa [eq_of_alike halike (h transcript result hruns)]

theorem IgnoresAutomatic.bind (hprocedure : IgnoresAutomatic procedure)
    (hnext : ∀ value, IgnoresAutomatic (next value)) : IgnoresAutomatic (procedure >>= next) := by
  intro other transcript result halike hruns
  rw [runs_bind_iff]
  rcases runs_bind_iff.mp hruns with
    ⟨error, hfirst, hresult⟩ | ⟨front, rest, value, rfl, hfront, hrest⟩
  · exact .inl ⟨error, hprocedure other transcript _ halike hfirst, hresult⟩
  · refine .inr ⟨other.take front.length, other.drop front.length, value,
      (List.take_append_drop ..).symm, ?_, ?_⟩
    · exact hprocedure _ front _ (List.forall₂_take_append _ _ _ halike) hfront
    · exact hnext value _ rest result (List.forall₂_drop_append _ _ _ halike) hrest

/-- Replies to a dry run that are alike report the same outstanding gates, or are the same. -/
theorem ofReply_of_alike (subject : Target) {target : Target} {draft : PolicyDraft}
    {reply reply' : Except RemoteFailure UpgradePolicy}
    (h : RemoteExchange.Alike ⟨.dryRunPolicy target draft, reply⟩
      ⟨.dryRunPolicy target draft, reply'⟩) :
    GateCheck.ofReply subject reply = GateCheck.ofReply subject reply' ∨
      ∃ gates gates', VersionGate.outstanding gates = VersionGate.outstanding gates' ∧
        GateCheck.ofReply subject reply = .ok (.missing gates) ∧
        GateCheck.ofReply subject reply' = .ok (.missing gates') := by
  cases h with
  | same => exact .inl rfl
  | @refused _ _ failure failure' gates gates' hgates hgates' houtstanding =>
    refine .inr ⟨gates, gates', houtstanding, ?_, ?_⟩
    · rw [GateCheck.ofReply, hgates]
    · rw [GateCheck.ofReply, hgates']

/-- What follows a gate check may look at the outstanding gates, and at no others. -/
theorem IgnoresAutomatic.check_bind {target : Target} {desired : DesiredVersion}
    {next : GateCheck → Procedure β} (hnext : ∀ check, IgnoresAutomatic (next check))
    (hgates : ∀ gates gates', VersionGate.outstanding gates = VersionGate.outstanding gates' →
      next (.missing gates) = next (.missing gates')) :
    IgnoresAutomatic (GateCheck.run target desired >>= next) := by
  intro other transcript result halike hruns
  rw [runs_bind_iff]
  rcases runs_bind_iff.mp hruns with ⟨error, hcheck, rfl⟩ | ⟨_, rest, check, rfl, hcheck, hrest⟩
  · obtain ⟨reply', rfl, herror⟩ := GateCheck.runs_run_iff.mp hcheck
    obtain ⟨⟨call, reply⟩, _, hexchange, hnil, rfl⟩ := List.forall₂_cons_right_iff.mp halike
    obtain rfl := List.forall₂_nil_right_iff.mp hnil
    obtain rfl := hexchange.call_eq
    refine .inl ⟨error, GateCheck.runs_run_iff.mpr ⟨reply, rfl, ?_⟩, rfl⟩
    rcases ofReply_of_alike target hexchange with hsame | ⟨_, _, -, -, hmissing⟩
    · rw [hsame, herror]
    · cases herror.trans hmissing
  · obtain ⟨reply', rfl, hok⟩ := GateCheck.runs_run_iff.mp hcheck
    obtain ⟨⟨call, reply⟩, others, hexchange, hothers, rfl⟩ := List.forall₂_cons_right_iff.mp halike
    obtain rfl := hexchange.call_eq
    have hrun := hnext check others rest result hothers hrest
    rcases ofReply_of_alike target hexchange with
      hsame | ⟨gates, gates', houtstanding, hmissing, hmissing'⟩
    · refine .inr ⟨[_], others, check, rfl, GateCheck.runs_run_iff.mpr ⟨reply, rfl, ?_⟩, hrun⟩
      rw [hsame, hok]
    · cases hok.trans hmissing'
      rw [← hgates gates gates' houtstanding] at hrun
      exact .inr ⟨[_], others, _, rfl,
        GateCheck.runs_run_iff.mpr ⟨reply, rfl, hmissing.symm⟩, hrun⟩

end Procedure

/-! ### Passes -/

open Procedure

variable {pageSize : Nat} {target : Target} {desired : DesiredVersion} {request : UpgradeRequest}
  {now : Instant}

theorem ignoresAutomatic_resolveGates : IgnoresAutomatic (resolveGates request) := by
  rw [resolveGates]
  apply IgnoresAutomatic.check_bind
  · intro check
    apply Avoids.ignoresAutomatic
    cases check with
    | clear => exact avoids_pure
    | missing gates =>
      dsimp only
      split
      · exact avoids_log.bind fun _ => avoids_pure
      · split
        · intro transcript result hruns call hcall
          exact isDryRun_of_mem_agreementCalls ((runs_acknowledgeAll hruns).mem_script hcall)
        · exact avoids_throw
  · intro gates gates' houtstanding
    simp only [houtstanding]

theorem ignoresAutomatic_explainGates : IgnoresAutomatic (explainGates target desired) := by
  rw [explainGates]
  refine IgnoresAutomatic.bind avoids_ofExcept.ignoresAutomatic fun _ => ?_
  apply IgnoresAutomatic.check_bind
  · intro check
    apply Avoids.ignoresAutomatic
    cases check with
    | clear => exact avoids_pure
    | missing gates => exact avoids_pure
  · intro gates gates' houtstanding
    simp only [houtstanding]

theorem avoids_isDryRun_cancelAll {upgrades : List ExistingUpgrade} :
    Avoids RemoteCall.isDryRun (cancelAll target upgrades) := by
  intro transcript result hruns call hcall
  exact isDryRun_of_mem_deletionCalls ((runs_cancelAll hruns).mem_script hcall)

theorem avoids_isDryRun_schedulePolicy :
    Avoids RemoteCall.isDryRun (schedulePolicy target desired) :=
  (avoids_call rfl).bind fun _ =>
    avoids_log.bind fun _ => avoids_pure

theorem ignoresAutomatic_reconcile : IgnoresAutomatic (reconcile pageSize request now) := by
  rw [reconcile]
  refine avoids_log.ignoresAutomatic.bind fun _ => ?_
  have hpreview : Avoids RemoteCall.isDryRun (previewPlan pageSize request.target
      request.desired now) :=
    avoids_previewPlan fun _ => RemoteCall.isDryRun_of_isReading
  refine hpreview.ignoresAutomatic.bind fun plan => ?_
  refine avoids_isDryRun_cancelAll.ignoresAutomatic.bind fun cancelled => ?_
  split
  · exact (avoids_log.bind fun _ => avoids_pure).ignoresAutomatic
  · refine ignoresAutomatic_resolveGates.bind fun acknowledged => ?_
    exact avoids_isDryRun_schedulePolicy.ignoresAutomatic.bind fun _ =>
      avoids_pure.ignoresAutomatic

/-- **Automatic gates have no influence.** For every remote side and every one that differs from it
in automatic gates alone. -/
theorem reconcile_ignoresAutomaticGates (hdiffer : DifferInAutomaticGates first second) (remote : σ)
    (pageSize : Nat) (request : UpgradeRequest) (now : Instant) :
    (reconcile pageSize request now).PlaysAlike first second remote ∧
      (explainGates request.target request.desired).PlaysAlike first second remote :=
  ⟨ignoresAutomatic_reconcile.playsAlike hdiffer remote,
    ignoresAutomatic_explainGates.playsAlike hdiffer remote⟩

/-- A remote side that refuses every dry run with a failure of its own. -/
def refusing (respond : σ → (call : RemoteCall) → call.Reply × σ) (failure : RemoteFailure)
    (remote : σ) : (call : RemoteCall) → call.Reply × σ
  | .dryRunPolicy target draft => (.error failure, (respond remote (.dryRunPolicy target draft)).2)
  | call => respond remote call

theorem differInAutomaticGates_refusing (respond : σ → (call : RemoteCall) → call.Reply × σ)
    {failure failure' : RemoteFailure} {gates gates' : List VersionGate}
    (hgates : failure.gates? = some gates) (hgates' : failure'.gates? = some gates')
    (houtstanding : VersionGate.outstanding gates = VersionGate.outstanding gates') :
    DifferInAutomaticGates (refusing respond failure) (refusing respond failure') := by
  intro remote call
  cases call with
  | dryRunPolicy target draft => exact ⟨.refused hgates hgates' houtstanding, rfl⟩
  | _ => exact ⟨.same _, rfl⟩

/-- Automatic gates around the one that needs consent name another version, which the token does not
cover. -/
theorem agreed_despite_automatic_gates :
    let gate (id versionPrefix : String) (isAutomatic : Bool) : Json :=
      .object [("id", .string id), ("version_raw_id_prefix", .string versionPrefix),
        ("sts_only", .bool isAutomatic)]
    let failure (gates : List Json) : RemoteFailure :=
      .api { status := 400, details := some (.array gates) }
    let earlier := [gate "a" "4.15" true, gate "b" "4.14" false]
    let later := [gate "b" "4.14" false, gate "c" "4.13" true]
    let first := refusing MemoryRemote.respond (failure earlier)
    let second := refusing MemoryRemote.respond (failure later)
    let version : Version := { major := 4, minor := 14, patch := 2, preRelease := [] }
    let request : UpgradeRequest :=
      { target := .cluster "alpha"
        desired := { rawId := "4.14.2", version, channelGroup := none }
        consent := some "4.14" }
    let agreed (respond : MemoryRemote → (call : RemoteCall) → call.Reply × MemoryRemote) :=
      ((reconcile 100 request .epoch).run.play respond {}).1.questions.filterMap
        RemoteCall.agreedGateId?
    DifferInAutomaticGates first second ∧ agreed first = ["b"] ∧ agreed second = ["b"] := by
  intro gate failure earlier later first second version request agreed
  have hgates : (failure earlier).gates? =
      some [{ id := "a", versionPrefix := "4.15", isAutomatic := true },
        { id := "b", versionPrefix := "4.14" }] := by
    rfl
  have hgates' : (failure later).gates? =
      some [{ id := "b", versionPrefix := "4.14" },
        { id := "c", versionPrefix := "4.13", isAutomatic := true }] := by
    rfl
  have hdiffer : DifferInAutomaticGates first second :=
    differInAutomaticGates_refusing _ hgates hgates' rfl
  have hagreed : agreed first = ["b"] := by
    unfold agreed reconcile previewPlan Listing.upgrades Listing.policies
    dsimp only
    rw [Listing.drainFrom]
    decide +kernel
  have hsame : agreed first = agreed second := by
    have halike := reconcile_ignoresAutomaticGates hdiffer {} 100 request .epoch
    exact congrArg (List.filterMap RemoteCall.agreedGateId?) halike.1.2.1
  exact ⟨hdiffer, hagreed, hsame ▸ hagreed⟩

end ClusterUpgrade
