import ClusterUpgrade.Proofs.Schedule.Convergence
import ClusterUpgrade.Proofs.Time.Instant

/-!
Idempotence. Main statement: `reconcile_again`. A pass that ends well leaves a remote side in memory
settled: whatever is still to come in scope is kept, by that pass and by every later one, since the
time window only moves on. A pass over a settled remote side reads it and changes nothing.
-/

namespace ClusterUpgrade

open Transcript Dialogue

variable {pageSize : Nat} {request : UpgradeRequest} {now time : Instant} {target : Target}
  {transcript : Transcript} {remote final : MemoryRemote} {upgrade : ExistingUpgrade}

/-! ### Settled remote sides -/

namespace MemoryRemote

/-- Nothing is left to be done in scope: all policies are kept or past, and one is kept. -/
structure IsSettled (request : UpgradeRequest) (time : Instant) (remote : MemoryRemote) : Prop where
  live_kept : ∀ upgrade ∈ remote.covered request.target, upgrade.state.isLive = true →
    request.keeps time upgrade = true
  exists_kept : ∃ upgrade ∈ remote.policies, request.keeps time upgrade = true

/-- No call fails, save perhaps dry runs. -/
def Works (remote : MemoryRemote) : Prop :=
  ∀ call : RemoteCall, call.isDryRun = false → remote.failure? call = none

theorem IsSettled.isPlannable (h : remote.IsSettled request time) {version : Version}
    (hversion : Release.supportedVersion request.desired.rawId = .ok version) :
    remote.IsPlannable request time := by
  refine ⟨⟨version, hversion⟩, fun upgrade hmem => ?_⟩
  cases hlive : upgrade.state.isLive with
  | false => exact ⟨.ignore, judge_of_not_isLive hlive⟩
  | true =>
    have hkeeps := h.live_kept upgrade hmem hlive
    exact ⟨.keep, judge_of_isKept (Bool.and_eq_true_iff.mp hkeeps).2⟩

theorem IsSettled.cancel_eq_nil (h : remote.IsSettled request time) :
    (planOf request.desired (time.addMinutes scheduleWindow)
      (remote.covered request.target)).cancel = [] := by
  apply List.filter_eq_nil_iff.mpr
  intro upgrade hmem hstale
  have hwaiting := (Bool.and_eq_true_iff.mp hstale).1
  have hkeeps := h.live_kept upgrade hmem (Bool.or_eq_true_iff.mpr (.inl hwaiting))
  have hkept := (Bool.and_eq_true_iff.mp hkeeps).2
  rw [ExistingUpgrade.isStale_eq_false_of_isKept hkept] at hstale
  cases hstale

theorem IsSettled.isSatisfied (h : remote.IsSettled request time) :
    (planOf request.desired (time.addMinutes scheduleWindow)
      (remote.covered request.target)).isSatisfied = true :=
  isSatisfied_planOf_iff.mpr h.exists_kept

theorem Works.reads (h : remote.Works) {call : RemoteCall} (hcall : call.isReading = true) :
    remote.failure? call = none :=
  h call (RemoteCall.isDryRun_of_isReading hcall)

end MemoryRemote

/-! ### A pass over a settled remote side -/

theorem Changes.eq_nil {plan : Plan} {result : Except UpgradeError ReconcileOutcome}
    (h : Changes request plan transcript result) (hcancel : plan.cancel = [])
    (hkeep : plan.isSatisfied = true) :
    transcript = [] ∧ result = .ok (.alreadyScheduled plan.keep []) := by
  cases h with
  | uncancelled hperforms =>
    rw [hcancel] at hperforms
    obtain ⟨front, call, failure, rfl, -⟩ := hperforms.breaksOff
    have hcall : call ∈ deletionCalls request.target [] := hperforms.mem_script (by simp)
    cases hcall
  | satisfied _ hcalls _ =>
    rw [hcancel] at hcalls ⊢
    exact ⟨List.map_eq_nil_iff.mp hcalls, rfl⟩
  | unresolved _ _ hnone _ => cases hkeep.symm.trans hnone
  | uncreated _ _ hnone _ => cases hkeep.symm.trans hnone
  | scheduled _ _ hnone _ => cases hkeep.symm.trans hnone

/-- **A settled remote side stays.** A pass reads it and finds that all is scheduled. -/
theorem reconciles_of_isSettled (hremote : remote.IsFaithful) (hworks : remote.Works)
    (hsettled : remote.IsSettled request time) {version : Version}
    (hversion : Release.supportedVersion request.desired.rawId = .ok version)
    {result : Except UpgradeError ReconcileOutcome}
    (h : Reconciles pageSize request time transcript result)
    (hanswered : Answered MemoryRemote.respond remote transcript final) :
    final = remote ∧ (∃ kept, result = .ok (.alreadyScheduled kept [])) ∧
      ∀ call ∈ transcript.calls, call.isReading = true := by
  have hplannable := hsettled.isPlannable hversion
  cases h with
  | unplanned hplan =>
    obtain ⟨-, hresult⟩ :=
      previews_of_isPlannable hremote (fun _ => hworks.reads) hplannable hplan hanswered
    cases hresult
  | planned hplan hchange =>
    obtain ⟨middle, hreading, hchanges⟩ := answered_append_iff.mp hanswered
    obtain ⟨hmiddle, hresult⟩ :=
      previews_of_isPlannable hremote (fun _ => hworks.reads) hplannable hplan hreading
    cases hresult
    obtain ⟨rfl, hresult⟩ := hchange.eq_nil hsettled.cancel_eq_nil hsettled.isSatisfied
    have hfinal : final = middle := hchanges
    rw [List.append_nil]
    exact ⟨hfinal.trans hmiddle, ⟨_, hresult⟩, fun call => hplan.isReading_of_mem_calls⟩

/-! ### What a pass leaves -/

/-- A policy that is kept at an instant is kept later, if the window ends later, too. -/
theorem keeps_of_keeps (hkeeps : request.keeps now upgrade = true)
    (hwindow : ¬(time.addMinutes scheduleWindow).isBefore (now.addMinutes scheduleWindow) = true) :
    request.keeps time upgrade = true := by
  obtain ⟨hcovers, hkept⟩ := Bool.and_eq_true_iff.mp hkeeps
  obtain ⟨hlive, hmet⟩ := Bool.and_eq_true_iff.mp hkept
  have hlater : (upgrade.state.isExecuting || (upgrade.state.isWaiting
      && upgrade.isDueBefore (time.addMinutes scheduleWindow))) = true := by
    rcases UpgradeRequest.due_of_keeps hkeeps with hexecuting | ⟨hwaiting, due, hnext, hdue⟩
    · rw [hexecuting, Bool.true_or]
    · have hdueLater := Instant.isBefore_of_not_isBefore hdue hwindow
      rw [hwaiting, ExistingUpgrade.isDueBefore, hnext, Option.any_some, hdueLater, Bool.and_true,
        Bool.or_true]
  rw [UpgradeRequest.keeps, ExistingUpgrade.isKept, hcovers, hlater, hmet]
  rfl

theorem keeps_created (hnamed : request.desired.isNamedBy request.desired.rawId = .ok true)
    (hdue : ∃ due, (remote.created request).nextRun = some due ∧
      due.isBefore (now.addMinutes scheduleWindow) = true) :
    request.keeps now (remote.created request) = true := by
  have hmet : request.desired.isMetBy (remote.created request).version = true :=
    DesiredVersion.isMetBy_eq_true_iff.mpr hnamed
  have hdueBefore : (remote.created request).isDueBefore (now.addMinutes scheduleWindow) = true :=
    (Option.any_eq_true ..).mpr hdue
  rw [UpgradeRequest.keeps, covers_created, ExistingUpgrade.isKept, hmet, hdueBefore]
  rfl

theorem nodup_ids_cleared (hids : (remote.policies.map ExistingUpgrade.id).Nodup) :
    ((remote.cleared request now).policies.map ExistingUpgrade.id).Nodup :=
  hids.sublist (List.filter_sublist.map _)

theorem nodup_ids_created (hids : (remote.policies.map ExistingUpgrade.id).Nodup)
    (hfresh : remote.nextId ∉ remote.policies.map ExistingUpgrade.id) :
    (((remote.cleared request now).addPolicy (remote.created request).policy).policies.map
      ExistingUpgrade.id).Nodup := by
  have hunused : remote.nextId ∉ (remote.cleared request now).policies.map ExistingUpgrade.id := by
    intro hmem
    exact hfresh ((List.filter_sublist.map _).subset hmem)
  rw [MemoryRemote.addPolicy, List.map_append, List.nodup_append]
  refine ⟨nodup_ids_cleared hids, List.nodup_singleton _, ?_⟩
  intro policyId hmem other hother hsame
  obtain rfl := List.mem_singleton.mp hother
  subst hsame
  exact hunused hmem

section Window

variable (hjudged : ∀ upgrade ∈ remote.covered request.target, ∃ found,
    judge request.target request.desired (now.addMinutes scheduleWindow) upgrade = .ok found)
  (hwindow : ¬(time.addMinutes scheduleWindow).isBefore (now.addMinutes scheduleWindow) = true)
include hjudged hwindow

theorem isSettled_cleared
    (hkept : ∃ upgrade ∈ remote.policies, request.keeps now upgrade = true) :
    (remote.cleared request now).IsSettled request time := by
  constructor
  · intro upgrade hmem hlive
    obtain ⟨hleft, hcovers⟩ := List.mem_filter.mp hmem
    obtain ⟨-, hkeeps⟩ := keeps_of_mem_cleared hjudged hleft hcovers hlive
    exact keeps_of_keeps hkeeps hwindow
  · obtain ⟨upgrade, hmem, hkeeps⟩ := hkept
    have hcancels := UpgradeRequest.cancels_eq_false_of_keeps hkeeps
    have hleft : upgrade ∈ (remote.cleared request now).policies :=
      List.mem_filter.mpr ⟨hmem, by simp [hcancels]⟩
    exact ⟨upgrade, hleft, keeps_of_keeps hkeeps hwindow⟩

theorem isSettled_created (hcreated : request.keeps now (remote.created request) = true) :
    ((remote.cleared request now).addPolicy (remote.created request).policy).IsSettled
      request time := by
  have hkeeps := keeps_of_keeps hcreated hwindow
  constructor
  · intro upgrade hmem hlive
    obtain ⟨hleft, hcovers⟩ := List.mem_filter.mp hmem
    rcases List.mem_append.mp hleft with hleft | hleft
    · exact keeps_of_keeps (keeps_of_mem_cleared hjudged hleft hcovers hlive).2 hwindow
    · obtain rfl := List.mem_singleton.mp hleft
      exact hkeeps
  · exact ⟨remote.created request, List.mem_append_right _ List.mem_cons_self, hkeeps⟩

end Window

/-- How a remote side stands behind a pass at an instant, if its total is still true then: it is
faithful and works as before, and it is settled from that instant on. -/
theorem settled_of_reconcile (hremote : remote.IsFaithful) (hworks : remote.Works)
    (hfresh : remote.nextId ∉ remote.policies.map ExistingUpgrade.id)
    (hnamed : request.desired.isNamedBy request.desired.rawId = .ok true)
    {outcome : ReconcileOutcome} (h : (reconcile pageSize request now).Runs transcript (.ok outcome))
    (hanswered : Answered MemoryRemote.respond remote transcript final)
    (htotal : final.TellsTotal)
    (hdue : ∀ policy cancelled acknowledged, outcome = .scheduled policy cancelled acknowledged →
      ∃ due, policy.nextRun = some due ∧ due.isBefore (now.addMinutes scheduleWindow) = true) :
    final.IsFaithful ∧ final.Works ∧
      ∀ time, ¬(time.addMinutes scheduleWindow).isBefore (now.addMinutes scheduleWindow) = true →
        final.IsSettled request time := by
  obtain ⟨hjudged, ⟨rfl, hkept⟩ | ⟨rfl, -, cancelled, acknowledged, houtcome⟩⟩ :=
    reconcile_of_memory hremote h hanswered
  · refine ⟨⟨hremote.cap_pos, htotal, nodup_ids_cleared hremote.ids_nodup⟩, hworks, ?_⟩
    intro time hwindow
    exact isSettled_cleared hjudged hwindow hkept
  · refine ⟨⟨hremote.cap_pos, htotal, nodup_ids_created hremote.ids_nodup hfresh⟩, hworks, ?_⟩
    intro time hwindow
    have hcreated := keeps_created hnamed (hdue _ _ _ houtcome)
    exact isSettled_created hjudged hwindow hcreated

theorem supported_of_reconcile {outcome : ReconcileOutcome}
    (h : (reconcile pageSize request now).Runs transcript (.ok outcome)) :
    ∃ version, Release.supportedVersion request.desired.rawId = .ok version := by
  cases reconciles_of_runs h with
  | planned hplan _ =>
    cases hplan with
    | read hversion _ _ => exact ⟨_, hversion⟩

/-- **Idempotence.** Once a pass has ended well and what it created is due in time, later passes for
the same request find all scheduled, read only, and leave the remote side as it is. -/
theorem reconcile_again (hremote : remote.IsFaithful) (hworks : remote.Works)
    (hfresh : remote.nextId ∉ remote.policies.map ExistingUpgrade.id)
    (hnamed : request.desired.isNamedBy request.desired.rawId = .ok true) (hnow : now.IsValid)
    {outcome : ReconcileOutcome}
    (hok : ((reconcile pageSize request now).run.play MemoryRemote.respond remote).1.value =
      .ok outcome)
    (htotal :
      ((reconcile pageSize request now).run.play MemoryRemote.respond remote).2.TellsTotal)
    (hdue : ∀ policy cancelled acknowledged, outcome = .scheduled policy cancelled acknowledged →
      ∃ due, policy.nextRun = some due ∧ due.isBefore (now.addMinutes scheduleWindow) = true)
    {times : List Instant}
    (htimes : ∀ time ∈ times, time.IsValid ∧ time.second ≤ 59 ∧ time.isBefore now = false ∧
      (time.shiftMinutes? scheduleWindow).isSome = true) :
    let left := ((reconcile pageSize request now).run.play MemoryRemote.respond remote).2
    let later := playAll MemoryRemote.respond
      (times.map fun time => (reconcile pageSize request time).run) left
    later.2 = left ∧ later.1.length = times.length ∧ ∀ record ∈ later.1,
      (∃ kept, record.value = .ok (.alreadyScheduled kept [])) ∧
        ∀ call ∈ record.questions, call.isReading = true := by
  obtain ⟨transcript, hruns, -, hanswered⟩ := Procedure.runs_of_play hok
  obtain ⟨version, hversion⟩ := supported_of_reconcile hruns
  obtain ⟨hfaithful, hleftWorks, hsettled⟩ :=
    settled_of_reconcile hremote hworks hfresh hnamed hruns hanswered htotal hdue
  intro left later
  rw [← List.length_map fun time => (reconcile pageSize request time).run]
  apply playAll_of_unchanged
  intro dialogue hdialogue
  obtain ⟨time, hmem, rfl⟩ := List.mem_map.mp hdialogue
  obtain ⟨htime, hleap, horder, hend⟩ := htimes time hmem
  have hwindow := Instant.addMinutes_not_isBefore hnow.2.1 htime.1 hleap hend
    (Bool.eq_false_iff.mp horder)
  obtain ⟨more, hmoreRuns, hquestions, hmoreAnswered⟩ := Procedure.runs_of_play
    (Eq.refl ((reconcile pageSize request time).run.play MemoryRemote.respond left).1.value)
  rw [← hquestions]
  exact reconciles_of_isSettled hfaithful hleftWorks (hsettled time hwindow) hversion
    (reconciles_of_runs hmoreRuns) hmoreAnswered

/-- After the only policy has been replaced by one that is due in time, two passes the day after, one
of them with a window past midnight, change nothing. -/
theorem again_after_replacement :
    let policy : UpgradePolicy := { id := "7", version := "4.14.2", kind := .platform }
    let remote : MemoryRemote :=
      { policies := [{ policy, status := { state := .scheduled } }], pageCap := some 1 }
    let version : Version := { major := 4, minor := 14, patch := 2, preRelease := [] }
    let request : UpgradeRequest :=
      { target := .nodePool "alpha" "blue"
        desired := { rawId := "4.14.2", version, channelGroup := none } }
    let left := ((reconcile 100 request .epoch).run.play MemoryRemote.respond remote).2
    let date : Date := { year := 1970, month := 1, day := 2 }
    let times : List Instant :=
      [{ date, minuteOfDay := 0, second := 0, nanosecond := 0 },
        { date, minuteOfDay := 1439, second := 59, nanosecond := 0 }]
    let later := playAll MemoryRemote.respond
      (times.map fun time => (reconcile 100 request time).run) left
    later.2 = left ∧ later.1.length = times.length ∧ ∀ record ∈ later.1,
      (∃ kept, record.value = .ok (.alreadyScheduled kept [])) ∧
        ∀ call ∈ record.questions, call.isReading = true := by
  intro policy remote version request left date times
  have hremote : remote.IsFaithful :=
    { cap_pos := fun cap hcap => by cases hcap; decide
      tellsTotal := ⟨rfl, by decide⟩
      ids_nodup := by decide }
  have hworks : remote.Works := fun _ _ => rfl
  have hfresh : remote.nextId ∉ remote.policies.map ExistingUpgrade.id := by decide +kernel
  have hnamed : request.desired.isNamedBy request.desired.rawId = .ok true :=
    DesiredVersion.isMetBy_eq_true_iff.mp (by decide +kernel)
  have hok : ((reconcile 100 request .epoch).run.play MemoryRemote.respond remote).1.value =
      .ok (.scheduled (remote.created request).policy ["7"] []) := by cbv
  have hcount : ((reconcile 100 request .epoch).run.play MemoryRemote.respond
      remote).2.policies.length = 1 := by cbv
  have hreported : ((reconcile 100 request .epoch).run.play MemoryRemote.respond
      remote).2.reportedTotal = none := by cbv
  have htotal : ((reconcile 100 request .epoch).run.play MemoryRemote.respond
      remote).2.TellsTotal := by
    unfold MemoryRemote.TellsTotal
    rw [hreported, hcount]
    decide
  have hdue : ∀ policy cancelled acknowledged,
      ReconcileOutcome.scheduled (remote.created request).policy ["7"] [] =
        .scheduled policy cancelled acknowledged →
      ∃ due, policy.nextRun = some due ∧
        due.isBefore (Instant.epoch.addMinutes scheduleWindow) = true := by
    intro policy cancelled acknowledged heq
    cases heq
    exact ⟨Instant.epoch.addMinutes 1, rfl, by decide⟩
  have htimes : ∀ time ∈ times, time.IsValid ∧ time.second ≤ 59 ∧
      time.isBefore Instant.epoch = false ∧ (time.shiftMinutes? scheduleWindow).isSome = true := by
    decide
  exact reconcile_again hremote hworks hfresh hnamed (by decide) hok htotal hdue htimes

end ClusterUpgrade
