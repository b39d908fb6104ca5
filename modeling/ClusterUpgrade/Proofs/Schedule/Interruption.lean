import ClusterUpgrade.Proofs.Schedule.Idempotence
import ClusterUpgrade.Proofs.Schedule.MemoryChanges

/-!
Interruptions. Main statement: `reconcile_afterInterruptions`. A pass over a remote side in memory
that ends with an error has deleted some of the policies that it cancels and done nothing else; and
how a pass ends can be told from the remote side without the policies that it cancels. So passes that
break off, however many and wherever, do not bear on how a later one ends.
-/

namespace ClusterUpgrade

open Transcript Dialogue

variable {pageSize : Nat} {request : UpgradeRequest} {now : Instant} {target : Target} {plan : Plan}
  {remote left final : MemoryRemote} {transcript : Transcript} {error : UpgradeError}

/-! ### What a pass leaves that ends with an error -/

theorem exists_of_prefix_deletionCalls {calls : List RemoteCall} {policyIds : List String}
    (h : calls <+: deletionCalls target policyIds) :
    ∃ deleted, deleted <+: policyIds ∧ calls = deletionCalls target deleted := by
  rw [List.prefix_iff_eq_take] at h
  refine ⟨policyIds.take calls.length, List.take_prefix .., ?_⟩
  rwa [deletionCalls, List.map_take]

theorem without_of_resolvesGates {deletions gates : Transcript} {policyIds : List String}
    {found : Except UpgradeError (List String)} (hsettled : deletions.Settled)
    (hcancel : deletions.calls = deletionCalls target policyIds)
    (hgates : ResolvesGates request gates found)
    (hanswered : Answered MemoryRemote.respond remote (deletions ++ gates) final) :
    final = remote.without policyIds := by
  obtain ⟨middle, hdeletions, hresolving⟩ := answered_append_iff.mp hanswered
  rw [eq_of_resolvesGates hgates hresolving]
  exact policies_of_deletions hsettled hcancel hdeletions

theorem Changes.leaves (h : Changes request plan transcript (.error error))
    (hanswered : Answered MemoryRemote.respond remote transcript final) :
    ∃ deleted, deleted <+: plan.cancel.map ExistingUpgrade.id ∧ final = remote.without deleted := by
  cases h with
  | uncancelled hcancel =>
    have hstart := hcancel.1
    obtain ⟨front, call, failure, rfl, hsettled, -⟩ := hcancel.breaksOff
    rw [calls_append] at hstart
    obtain ⟨deleted, hdeleted, hcalls⟩ :=
      exists_of_prefix_deletionCalls ((List.prefix_append ..).trans hstart)
    have hdeletions := MemoryRemote.answered_of_answered_error hanswered
    exact ⟨deleted, hdeleted, policies_of_deletions hsettled hcalls hdeletions⟩
  | unresolved hsettled hcancel _ hgates =>
    exact ⟨_, List.prefix_rfl, without_of_resolvesGates hsettled hcancel hgates hanswered⟩
  | uncreated hsettled hcancel _ hgates =>
    rw [← List.append_assoc] at hanswered
    have hresolved := MemoryRemote.answered_of_answered_error hanswered
    exact ⟨_, List.prefix_rfl, without_of_resolvesGates hsettled hcancel hgates hresolved⟩

theorem cleared_without (hids : (remote.policies.map ExistingUpgrade.id).Nodup)
    {deleted : List String}
    (hdeleted : deleted ⊆ (planOf request.desired (now.addMinutes scheduleWindow)
      (remote.covered request.target)).cancel.map ExistingUpgrade.id) :
    (remote.without deleted).cleared request now = remote.cleared request now := by
  unfold MemoryRemote.cleared MemoryRemote.without
  rw [List.filter_filter]
  congr 1
  apply List.filter_congr
  intro upgrade hmem
  cases hcancels : request.cancels now upgrade with
  | true => rfl
  | false =>
    have hspared : upgrade.id ∉ deleted := by
      intro hid
      have hcancelled := (id_mem_cancelled_iff hids hmem).mp (hdeleted hid)
      cases hcancelled.symm.trans hcancels
    simp [hspared]

/-- What is left of a remote side where some of the policies that a pass cancels are gone. They may
be gone only if the pass gets to a plan. -/
structure Remains (request : UpgradeRequest) (now : Instant) (remote left : MemoryRemote) : Prop where
  cleared_eq : left.cleared request now = remote.cleared request now
  sublist : left.policies.Sublist remote.policies
  eq_or_isPlannable : left = remote ∨ remote.IsPlannable request now

namespace Remains

theorem refl (remote : MemoryRemote) : Remains request now remote remote :=
  ⟨rfl, List.Sublist.refl _, .inl rfl⟩

theorem trans (h : Remains request now remote left) (hrest : Remains request now left final) :
    Remains request now remote final := by
  refine ⟨hrest.cleared_eq.trans h.cleared_eq, hrest.sublist.trans h.sublist, ?_⟩
  rcases h.eq_or_isPlannable with rfl | hplannable
  · exact hrest.eq_or_isPlannable
  · exact .inr hplannable

end Remains

/-- **A pass that breaks off.** Whatever made it end with an error. -/
theorem remains_of_error (hremote : remote.IsFaithful)
    (h : (reconcile pageSize request now).Runs transcript (.error error))
    (hanswered : Answered MemoryRemote.respond remote transcript final) :
    Remains request now remote final := by
  cases reconciles_of_runs h with
  | unplanned hplan =>
    rw [hplan.unchanged hanswered]
    exact .refl remote
  | planned hplan hchange =>
    obtain ⟨middle, hreading, hchanges⟩ := answered_append_iff.mp hanswered
    obtain ⟨rfl, hplannable, rfl⟩ := previews_of_memory hremote hplan hreading
    obtain ⟨deleted, hdeleted, rfl⟩ := hchange.leaves hchanges
    exact ⟨cleared_without hremote.ids_nodup hdeleted.subset, List.filter_sublist,
      .inr hplannable⟩

/-! ### How a pass ends -/

theorem isSatisfied_planOf :
    (planOf request.desired (now.addMinutes scheduleWindow)
        (remote.covered request.target)).isSatisfied =
      (remote.cleared request now).policies.any (request.keeps now) := by
  rw [Bool.eq_iff_iff, isSatisfied_planOf_iff, List.any_eq_true]
  constructor
  · rintro ⟨upgrade, hmem, hkeeps⟩
    have hspared : (!request.cancels now upgrade) = true := by
      rw [UpgradeRequest.cancels_eq_false_of_keeps hkeeps]
      rfl
    exact ⟨upgrade, List.mem_filter.mpr ⟨hmem, hspared⟩, hkeeps⟩
  · rintro ⟨upgrade, hmem, hkeeps⟩
    exact ⟨upgrade, (List.mem_filter.mp hmem).1, hkeeps⟩

namespace MemoryRemote

/-- How a pass that gets to a plan ends, told from the remote side without the policies that it
cancels: whether it ends well, and what it leaves. -/
def ending (request : UpgradeRequest) (now : Instant) (cleared : MemoryRemote) :
    Bool × MemoryRemote :=
  if cleared.policies.any (request.keeps now) then (true, cleared)
  else
    match request.agreements (cleared.dryRunReply request) with
    | .error _ => (false, cleared)
    | .ok _ => (true, cleared.addPolicy (cleared.created request).policy)

theorem Works.allowsChanges (h : remote.Works) : remote.AllowsChanges := by
  intro call hcall
  apply h
  cases call with
  | dryRunPolicy => cases hcall
  | _ => rfl

end MemoryRemote

theorem CarriesOut.ending {calls : List RemoteCall} {result : Except UpgradeError ReconcileOutcome}
    (h : CarriesOut request plan remote calls result final)
    (hplan : plan = planOf request.desired (now.addMinutes scheduleWindow)
      (remote.covered request.target))
    (hids : (remote.policies.map ExistingUpgrade.id).Nodup) :
    (result.isOk, final) = (remote.cleared request now).ending request now := by
  subst hplan
  have hcleared : remote.without ((planOf request.desired (now.addMinutes scheduleWindow)
      (remote.covered request.target)).cancel.map ExistingUpgrade.id) =
        remote.cleared request now := by
    rw [MemoryRemote.without, filter_not_mem_cancelled hids]
    rfl
  have hreply : (remote.cleared request now).dryRunReply request = remote.dryRunReply request :=
    MemoryRemote.dryRunReply_congr rfl
  rw [MemoryRemote.ending, ← isSatisfied_planOf, hreply]
  cases h with
  | satisfied hkeep =>
    rw [hkeep, hcleared]
    rfl
  | refused hkeep hgates =>
    rw [hkeep, hgates, hcleared]
    rfl
  | scheduled hkeep hgates =>
    rw [hkeep, hgates, hcleared]
    rfl

/-- A pass that gets to a plan ends as it would where the policies that it cancels had never been. -/
theorem ending_of_isPlannable (hremote : remote.IsFaithful) (hworks : remote.Works)
    (hplannable : remote.IsPlannable request now)
    {result : Except UpgradeError ReconcileOutcome}
    (h : (reconcile pageSize request now).Runs transcript result)
    (hanswered : Answered MemoryRemote.respond remote transcript final) :
    (result.isOk, final) = (remote.cleared request now).ending request now := by
  cases reconciles_of_runs h with
  | unplanned hplan =>
    obtain ⟨-, hresult⟩ :=
      previews_of_isPlannable hremote (fun _ => hworks.reads) hplannable hplan hanswered
    cases hresult
  | planned hplan hchange =>
    obtain ⟨middle, hreading, hchanges⟩ := answered_append_iff.mp hanswered
    obtain ⟨rfl, hresult⟩ :=
      previews_of_isPlannable hremote (fun _ => hworks.reads) hplannable hplan hreading
    cases hresult
    exact (hchange.carriesOut hworks.allowsChanges hchanges).ending rfl hremote.ids_nodup

/-! ### Passes in sequence -/

/-- The same policies behind other failures. -/
def MemoryRemote.withRules (rules : List FailureRule) (remote : MemoryRemote) : MemoryRemote :=
  { remote with failureRules := rules }

@[simp]
theorem MemoryRemote.policies_withRules {rules : List FailureRule} :
    (remote.withRules rules).policies = remote.policies :=
  rfl

theorem MemoryRemote.TellsTotal.withRules (h : remote.TellsTotal) (rules : List FailureRule) :
    (remote.withRules rules).TellsTotal :=
  h

theorem MemoryRemote.IsFaithful.withRules (h : remote.IsFaithful) (rules : List FailureRule) :
    (remote.withRules rules).IsFaithful :=
  ⟨h.cap_pos, h.tellsTotal.withRules rules, h.ids_nodup⟩

/-- What passes for a request can leave that all end with an error, each one over failures of its
own. The total is true whenever one of them begins. -/
inductive Interrupted (request : UpgradeRequest) (now : Instant) (remote : MemoryRemote) :
    MemoryRemote → Prop where
  | start : Interrupted request now remote remote
  | pass {left : MemoryRemote} (hbefore : Interrupted request now remote left)
      (htotal : left.TellsTotal) (pageSize : Nat) (rules : List FailureRule)
      (hfails : ((reconcile pageSize request now).run.play MemoryRemote.respond
        (left.withRules rules)).1.value.isOk = false) :
      Interrupted request now remote
        (((reconcile pageSize request now).run.play MemoryRemote.respond
          (left.withRules rules)).2.withRules remote.failureRules)

namespace Remains

theorem withRules (h : Remains request now remote left) (rules : List FailureRule) :
    Remains request now (remote.withRules rules) (left.withRules rules) := by
  refine ⟨congrArg (MemoryRemote.withRules rules) h.cleared_eq, h.sublist, ?_⟩
  rcases h.eq_or_isPlannable with rfl | hplannable
  · exact .inl rfl
  · exact .inr ⟨hplannable.supported, hplannable.judged⟩

/-- Only policies go. -/
theorem frame (h : Remains request now remote left) :
    left.pageCap = remote.pageCap ∧ left.failureRules = remote.failureRules ∧
      left.lastNumber = remote.lastNumber := by
  have hcap := congrArg MemoryRemote.pageCap h.cleared_eq
  have hrules := congrArg MemoryRemote.failureRules h.cleared_eq
  have hnumber := congrArg MemoryRemote.lastNumber h.cleared_eq
  exact ⟨hcap, hrules, hnumber⟩

theorem isFaithful (h : Remains request now remote left) (hremote : remote.IsFaithful)
    (htotal : left.TellsTotal) : left.IsFaithful := by
  obtain ⟨hcap, -, -⟩ := h.frame
  exact ⟨hcap ▸ hremote.cap_pos, htotal, hremote.ids_nodup.sublist (h.sublist.map _)⟩

theorem works (h : Remains request now remote left) (hworks : remote.Works) : left.Works := by
  obtain ⟨-, hrules, -⟩ := h.frame
  intro call hcall
  rw [MemoryRemote.failure?, hrules]
  exact hworks call hcall

theorem isPlannable (h : Remains request now remote left)
    (hplannable : remote.IsPlannable request now) : left.IsPlannable request now := by
  refine ⟨hplannable.supported, fun upgrade hmem => hplannable.judged upgrade ?_⟩
  exact (h.sublist.filter _).subset hmem

end Remains

theorem Interrupted.remains (hremote : remote.IsFaithful) (h : Interrupted request now remote left) :
    Remains request now remote left := by
  induction h with
  | start => exact .refl remote
  | @pass left hbefore htotal pageSize rules hfails ih =>
    have hleft : left.IsFaithful := ih.isFaithful hremote htotal
    cases hvalue : ((reconcile pageSize request now).run.play MemoryRemote.respond
        (left.withRules rules)).1.value with
    | ok outcome =>
      rw [hvalue] at hfails
      cases hfails
    | error error =>
      obtain ⟨transcript, hruns, -, hanswered⟩ := Procedure.runs_of_play hvalue
      have hbroken := (remains_of_error (hleft.withRules rules) hruns hanswered).withRules
        remote.failureRules
      -- Back to the ordinary rules, which `left` has, too.
      have hordinary : (left.withRules rules).withRules remote.failureRules = left := by
        rw [← ih.frame.2.1]
        rfl
      rw [hordinary] at hbroken
      exact ih.trans hbroken

/-- **Interruptions.** After any passes that ended with errors, a pass with none but dry runs failing
leaves what it would have left at first, and ends well if it would have then. -/
theorem reconcile_afterInterruptions (hremote : remote.IsFaithful) (hworks : remote.Works)
    (hinterrupted : Interrupted request now remote left) (htotal : left.TellsTotal)
    (pageSize : Nat) :
    ((reconcile pageSize request now).run.play MemoryRemote.respond left).2 =
        ((reconcile pageSize request now).run.play MemoryRemote.respond remote).2 ∧
      ((reconcile pageSize request now).run.play MemoryRemote.respond left).1.value.isOk =
        ((reconcile pageSize request now).run.play MemoryRemote.respond remote).1.value.isOk := by
  have hremains := hinterrupted.remains hremote
  -- If no pass has changed anything yet, it need not get to a plan, and both passes are the same one.
  rcases hremains.eq_or_isPlannable with rfl | hplannable
  · exact ⟨rfl, rfl⟩
  have hleft : left.IsFaithful := hremains.isFaithful hremote htotal
  obtain ⟨direct, hdirect, -, hdirectAnswered⟩ :=
    Procedure.exists_runs MemoryRemote.respond (reconcile pageSize request now) remote
  obtain ⟨later, hlater, -, hlaterAnswered⟩ :=
    Procedure.exists_runs MemoryRemote.respond (reconcile pageSize request now) left
  have hdirectEnding := ending_of_isPlannable hremote hworks hplannable hdirect hdirectAnswered
  have hlaterEnding := ending_of_isPlannable hleft (hremains.works hworks)
    (hremains.isPlannable hplannable) hlater hlaterAnswered
  rw [hremains.cleared_eq, ← hdirectEnding] at hlaterEnding
  obtain ⟨hok, hfinal⟩ := Prod.mk.inj hlaterEnding
  exact ⟨hfinal, hok⟩

/-- Of two policies that have to go, the second one cannot be deleted at first. -/
theorem scheduled_after_broken_deletion :
    let policy : UpgradePolicy := { id := "7", version := "4.14.2", kind := .platform }
    let first : ExistingUpgrade := { policy, status := { state := .scheduled } }
    let second : ExistingUpgrade := { first with policy := { policy with id := "8" } }
    let remote : MemoryRemote := { policies := [first, second], pageCap := some 2 }
    let version : Version := { major := 4, minor := 14, patch := 2, preRelease := [] }
    let request : UpgradeRequest :=
      { target := .cluster "alpha"
        desired := { rawId := "4.14.2", version, channelGroup := none } }
    ∃ left, Interrupted request .epoch remote left ∧ left.policies = [second] ∧
      ((reconcile 100 request .epoch).run.play MemoryRemote.respond left).2 =
          ((reconcile 100 request .epoch).run.play MemoryRemote.respond remote).2 ∧
        ((reconcile 100 request .epoch).run.play MemoryRemote.respond left).1.value.isOk =
          ((reconcile 100 request .epoch).run.play MemoryRemote.respond remote).1.value.isOk := by
  intro policy first second remote version request
  have hremote : remote.IsFaithful :=
    { cap_pos := fun cap hcap => by cases hcap; decide
      tellsTotal := ⟨rfl, by decide⟩
      ids_nodup := by decide }
  have hworks : remote.Works := fun _ _ => rfl
  let rules : List FailureRule :=
    [{ name := "delete", key := some "8", failure := .transport "connection reset" }]
  have hbroken : ((reconcile 100 request .epoch).run.play MemoryRemote.respond
        (remote.withRules rules)).1.value.isOk = false ∧
      ((reconcile 100 request .epoch).run.play MemoryRemote.respond
        (remote.withRules rules)).2.policies = [second] ∧
      ((reconcile 100 request .epoch).run.play MemoryRemote.respond
        (remote.withRules rules)).2.reportedTotal = none := by
    unfold reconcile previewPlan Listing.upgrades Listing.policies
    dsimp only
    rw [Listing.drainFrom]
    decide +kernel
  obtain ⟨hfails, hpolicies, hreported⟩ := hbroken
  have htotal : ((reconcile 100 request .epoch).run.play MemoryRemote.respond
      (remote.withRules rules)).2.TellsTotal := by
    unfold MemoryRemote.TellsTotal
    rw [hreported, hpolicies]
    decide
  have hinterrupted := Interrupted.pass .start hremote.tellsTotal 100 rules hfails
  refine ⟨_, hinterrupted, ?_, ?_⟩
  · rw [MemoryRemote.policies_withRules]
    exact hpolicies
  · exact reconcile_afterInterruptions hremote hworks hinterrupted (htotal.withRules _) 100

end ClusterUpgrade
