import ClusterUpgrade.Proofs.Schedule.Interruption

/-!
Live upgrades. Main statement: `length_live_le_one`. A pass creates a policy only after it has
deleted every live one in scope, and a pass that breaks off creates none. So where at most one policy
in scope is live, it stays at most one through passes for any versions, whatever fails in them, and
through all else that befalls the policies between passes, as long as nothing brings a past one back
to life.
-/

namespace ClusterUpgrade

open Transcript Dialogue

variable {request : UpgradeRequest} {now : Instant} {target : Target} {pageSize : Nat}
  {remote left : MemoryRemote} {transcript : Transcript}

namespace MemoryRemote

/-- The policies in scope that are still to come or under way. -/
def live (target : Target) (remote : MemoryRemote) : List ExistingUpgrade :=
  remote.policies.filter fun upgrade => target.covers upgrade.policy && upgrade.state.isLive

/-- Pages are not capped to nothing, no two policies share an id, and no id that is still to be
generated is in use. -/
structure IsSound (remote : MemoryRemote) : Prop where
  cap_pos : ∀ cap, remote.pageCap = some cap → 1 ≤ cap
  ids_nodup : (remote.policies.map ExistingUpgrade.id).Nodup
  ids_fresh : ∀ number, remote.lastNumber < number →
    Text.natText number ∉ remote.policies.map ExistingUpgrade.id

/-- At most one policy in scope is live, and the ids are such that it can stay so. -/
structure HasOneLive (target : Target) (remote : MemoryRemote) : Prop extends remote.IsSound where
  live_le_one : (remote.live target).length ≤ 1

end MemoryRemote

/-- What can become of a remote side in one step: a pass for the target, over any failures, or a
change that is none of its doing. -/
inductive Proceeds (target : Target) : MemoryRemote → MemoryRemote → Prop where
  | pass {remote : MemoryRemote} (htotal : remote.TellsTotal) (pageSize : Nat)
      (request : UpgradeRequest) (htarget : request.target = target) (now : Instant)
      (rules : List FailureRule) :
      Proceeds target remote
        ((reconcile pageSize request now).run.play MemoryRemote.respond
          (remote.withRules rules)).2
  | clock (remote : MemoryRemote) (clock : Instant) : Proceeds target remote { remote with clock }
  | removal (remote : MemoryRemote) (policyId : String) :
      Proceeds target remote (remote.removePolicy policyId)
  /-- No policy that is past becomes live. -/
  | moved {remote : MemoryRemote} {policyId : String} {state : PolicyState}
      (hlive : state.isLive = true → ∀ upgrade ∈ remote.policies, upgrade.id = policyId →
        upgrade.state.isLive = true) :
      Proceeds target remote (remote.setState policyId state)

/-! ### What a pass leaves -/

theorem live_created :
    ((remote.cleared request now).addPolicy (remote.created request).policy).live request.target =
      (remote.cleared request now).live request.target ++ [remote.created request] := by
  have hlive : (request.target.covers (remote.created request).policy &&
      (remote.created request).state.isLive) = true := by
    rw [covers_created]
    rfl
  rw [MemoryRemote.live, MemoryRemote.addPolicy, List.filter_append]
  exact congrArg _ (List.filter_cons_of_pos hlive)

/-- Of the policies in scope that are live, a pass leaves exactly those that it rests on. -/
theorem live_cleared (hjudged : ∀ upgrade ∈ remote.covered request.target, ∃ found,
      judge request.target request.desired (now.addMinutes scheduleWindow) upgrade = .ok found) :
    (remote.cleared request now).live request.target =
      remote.policies.filter (request.keeps now) := by
  rw [MemoryRemote.live, MemoryRemote.cleared, List.filter_filter]
  apply List.filter_congr
  intro upgrade hmem
  rw [Bool.eq_iff_iff, Bool.and_eq_true, Bool.and_eq_true, Bool.not_eq_true']
  constructor
  · rintro ⟨⟨hcovers, hlive⟩, hcancels⟩
    have hcleared : upgrade ∈ (remote.cleared request now).policies :=
      List.mem_filter.mpr ⟨hmem, by simp [hcancels]⟩
    exact (keeps_of_mem_cleared hjudged hcleared hcovers hlive).2
  · intro hkeeps
    obtain ⟨hcovers, hkept⟩ := Bool.and_eq_true_iff.mp hkeeps
    exact ⟨⟨hcovers, ExistingUpgrade.isLive_of_isKept hkept⟩,
      UpgradeRequest.cancels_eq_false_of_keeps hkeeps⟩

namespace MemoryRemote.HasOneLive

theorem of_sublist (h : remote.HasOneLive target) (hpolicies : left.policies.Sublist remote.policies)
    (hcap : left.pageCap = remote.pageCap) (hnumber : left.lastNumber = remote.lastNumber) :
    left.HasOneLive target where
  cap_pos := hcap ▸ h.cap_pos
  ids_nodup := h.ids_nodup.sublist (hpolicies.map _)
  ids_fresh := by
    intro number hlast hmem
    rw [hnumber] at hlast
    exact h.ids_fresh number hlast ((hpolicies.map _).subset hmem)
  live_le_one := by
    have hlive : (left.live target).Sublist (remote.live target) := hpolicies.filter _
    exact hlive.length_le.trans h.live_le_one

/-! ### Passes -/

theorem isFaithful (h : remote.HasOneLive target) (htotal : remote.TellsTotal) :
    remote.IsFaithful :=
  ⟨h.cap_pos, htotal, h.ids_nodup⟩

/-- Where no policy is kept, none that is live is left, so a new one is the only one. -/
theorem created (h : remote.HasOneLive request.target)
    (hjudged : ∀ upgrade ∈ remote.covered request.target, ∃ found,
      judge request.target request.desired (now.addMinutes scheduleWindow) upgrade = .ok found)
    (hkept : ¬∃ upgrade ∈ remote.policies, request.keeps now upgrade = true) :
    ((remote.cleared request now).addPolicy (remote.created request).policy).HasOneLive
      request.target where
  cap_pos := h.cap_pos
  ids_nodup := nodup_ids_created h.ids_nodup (h.ids_fresh _ (Nat.lt_succ_self _))
  ids_fresh := by
    intro number hlast hmem
    have hnumber : remote.lastNumber + 1 < number := hlast
    rw [MemoryRemote.addPolicy, List.map_append, List.mem_append] at hmem
    rcases hmem with hmem | hmem
    · have hused := (List.filter_sublist.map _).subset hmem
      exact h.ids_fresh number (Nat.lt_of_succ_lt hnumber) hused
    · have hid : Text.natText number = remote.nextId := List.mem_singleton.mp hmem
      exact absurd (Text.natText_inj.mp hid) (Nat.ne_of_gt hnumber)
  live_le_one := by
    have hnone : remote.policies.filter (request.keeps now) = [] :=
      List.filter_eq_nil_iff.mpr fun upgrade hmem hkeeps => hkept ⟨upgrade, hmem, hkeeps⟩
    rw [live_created, live_cleared hjudged, hnone]
    exact Nat.le_refl 1

theorem reconciled (h : remote.HasOneLive request.target) (htotal : remote.TellsTotal)
    {result : Except UpgradeError ReconcileOutcome}
    (hruns : (reconcile pageSize request now).Runs transcript result)
    (hanswered : Answered MemoryRemote.respond remote transcript left) :
    left.HasOneLive request.target := by
  cases result with
  | error error =>
    have hremains := remains_of_error (h.isFaithful htotal) hruns hanswered
    obtain ⟨hcap, -, hnumber⟩ := hremains.frame
    exact h.of_sublist hremains.sublist hcap hnumber
  | ok outcome =>
    obtain ⟨hjudged, ⟨rfl, -⟩ | ⟨rfl, hkept, -⟩⟩ :=
      reconcile_of_memory (h.isFaithful htotal) hruns hanswered
    · exact h.of_sublist List.filter_sublist rfl rfl
    · exact h.created hjudged hkept

/-! ### Other changes -/

theorem moved (h : remote.HasOneLive target) {policyId : String} {state : PolicyState}
    (hlive : state.isLive = true → ∀ upgrade ∈ remote.policies, upgrade.id = policyId →
      upgrade.state.isLive = true) :
    (remote.setState policyId state).HasOneLive target := by
  have hids : (remote.setState policyId state).policies.map ExistingUpgrade.id =
      remote.policies.map ExistingUpgrade.id := by
    rw [MemoryRemote.setState, List.map_map]
    apply List.map_congr_left
    intro upgrade _
    rw [Function.comp_apply]
    split <;> rfl
  refine ⟨⟨h.cap_pos, hids ▸ h.ids_nodup, hids ▸ h.ids_fresh⟩, ?_⟩
  -- The ids and the scope of policies do not move, so only what was live can be live behind it.
  refine Nat.le_trans ?_ h.live_le_one
  rw [MemoryRemote.live, MemoryRemote.live, ← List.countP_eq_length_filter,
    ← List.countP_eq_length_filter, MemoryRemote.setState, List.countP_map]
  apply List.countP_mono_left
  intro upgrade hmem hmoved
  rw [Function.comp_apply] at hmoved
  by_cases hid : (upgrade.id == policyId) = true
  · rw [if_pos hid] at hmoved
    obtain ⟨hcovers, hstate⟩ := Bool.and_eq_true_iff.mp hmoved
    exact Bool.and_eq_true_iff.mpr ⟨hcovers, hlive hstate upgrade hmem (beq_iff_eq.mp hid)⟩
  · rwa [if_neg hid] at hmoved

theorem proceeds (h : remote.HasOneLive target) (hstep : Proceeds target remote left) :
    left.HasOneLive target := by
  cases hstep with
  | pass htotal pageSize request htarget now rules =>
    subst htarget
    have hbehind : (remote.withRules rules).HasOneLive request.target :=
      h.of_sublist (List.Sublist.refl _) rfl rfl
    obtain ⟨transcript, hruns, -, hanswered⟩ := Procedure.exists_runs MemoryRemote.respond
      (reconcile pageSize request now) (remote.withRules rules)
    exact hbehind.reconciled (htotal.withRules rules) hruns hanswered
  | clock => exact h.of_sublist (List.Sublist.refl _) rfl rfl
  | removal => exact h.of_sublist List.filter_sublist rfl rfl
  | moved hlive => exact h.moved hlive

end MemoryRemote.HasOneLive

/-- **At most one live upgrade.** After every step. -/
theorem length_live_le_one (hremote : remote.IsSound) (hlive : (remote.live target).length ≤ 1)
    (h : Relation.ReflTransGen (Proceeds target) remote left) :
    (left.live target).length ≤ 1 := by
  have hleft : left.HasOneLive target := by
    induction h with
    | refl => exact ⟨hremote, hlive⟩
    | tail _ hstep ih => exact ih.proceeds hstep
  exact hleft.live_le_one

/-- A pass replaces the one live policy; the one that was past before is removed. -/
theorem one_live_after_replacement :
    let policy : UpgradePolicy := { id := "7", version := "4.14.2", kind := .platform }
    let remote : MemoryRemote :=
      { policies :=
          [{ policy, status := { state := .scheduled } },
            { policy := { policy with id := "8" }, status := { state := .completed } }] }
    let version : Version := { major := 4, minor := 14, patch := 2, preRelease := [] }
    let request : UpgradeRequest :=
      { target := .cluster "alpha"
        desired := { rawId := "4.14.2", version, channelGroup := none } }
    ∃ left, Relation.ReflTransGen (Proceeds request.target) remote left ∧
      (left.live request.target).map ExistingUpgrade.id = ["1001"] ∧
        (left.live request.target).length ≤ 1 := by
  intro policy remote version request
  have hids : remote.policies.map ExistingUpgrade.id = [Text.natText 7, Text.natText 8] := by
    decide +kernel
  have hremote : remote.IsSound := by
    refine ⟨nofun, by decide, fun number hlast hmem => ?_⟩
    have hnumber : 1000 < number := hlast
    rw [hids, List.mem_pair, Text.natText_inj, Text.natText_inj] at hmem
    omega
  have htotal : remote.TellsTotal := ⟨rfl, by decide⟩
  have hpass := Proceeds.pass htotal 100 request rfl .epoch []
  have hsteps := Relation.ReflTransGen.tail (.single hpass) (.removal _ "8")
  refine ⟨_, hsteps, ?_, length_live_le_one hremote (by decide) hsteps⟩
  unfold reconcile previewPlan Listing.upgrades Listing.policies
  dsimp only
  rw [Listing.drainFrom]
  decide +kernel

end ClusterUpgrade
