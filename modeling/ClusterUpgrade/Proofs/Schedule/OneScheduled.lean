import ClusterUpgrade.Proofs.Schedule.LiveUpgrades

/-!
How many live upgrades a pass leaves. Main statement: `reconcile_leavesKept`. A pass that ends well
leaves in scope the policies that it may rest on, all of them, and creates one if there is none. So
exactly one upgrade is live behind it unless several were that already brought the desired version
in time; a pass takes none of these away.
-/

namespace ClusterUpgrade

open Dialogue

variable {request : UpgradeRequest} {now : Instant} {pageSize : Nat}
  {remote left : MemoryRemote} {outcome : ReconcileOutcome}

/-- The policies that a pass at an instant may rest on. -/
def MemoryRemote.kept (request : UpgradeRequest) (now : Instant) (remote : MemoryRemote) :
    List ExistingUpgrade :=
  remote.policies.filter (request.keeps now)

theorem kept_eq_nil_iff :
    remote.kept request now = [] ↔
      ¬∃ upgrade ∈ remote.policies, request.keeps now upgrade = true := by
  rw [MemoryRemote.kept, List.filter_eq_nil_iff, not_exists]
  exact forall_congr' fun upgrade => not_and.symm

theorem kept_sublist_live :
    (remote.kept request now).Sublist (remote.live request.target) := by
  apply List.monotone_filter_right
  intro upgrade hkeeps
  obtain ⟨hcovers, hkept⟩ := Bool.and_eq_true_iff.mp hkeeps
  exact Bool.and_eq_true_iff.mpr ⟨hcovers, ExistingUpgrade.isLive_of_isKept hkept⟩

/-- What is live in scope behind a pass that ended well. -/
structure LeavesKept (request : UpgradeRequest) (now : Instant) (remote left : MemoryRemote) :
    Prop where
  live_eq : left.live request.target =
    if remote.kept request now = [] then [remote.created request] else remote.kept request now
  exists_live : left.live request.target ≠ []
  one_live_iff : (left.live request.target).length = 1 ↔ (remote.kept request now).length ≤ 1
  one_live : (remote.live request.target).length ≤ 1 → (left.live request.target).length = 1

theorem LeavesKept.of_live_eq (hlive : left.live request.target =
    if remote.kept request now = [] then [remote.created request] else remote.kept request now) :
    LeavesKept request now remote left := by
  have hiff : (left.live request.target).length = 1 ↔ (remote.kept request now).length ≤ 1 := by
    rw [hlive]
    split
    · rename_i hnone
      simp [hnone]
    · rename_i hsome
      have hpos := List.length_pos_iff.mpr hsome
      omega
  refine { live_eq := hlive, exists_live := ?_, one_live_iff := hiff, one_live := ?_ }
  · rw [hlive]
    split
    · exact List.cons_ne_nil _ _
    · assumption
  · intro hone
    exact hiff.mpr (kept_sublist_live.length_le.trans hone)

/-- **What a pass rests on stays.** Nothing else in scope is live then, and one upgrade always is. -/
theorem reconcile_leavesKept (hremote : remote.IsFaithful)
    (hok : ((reconcile pageSize request now).run.play MemoryRemote.respond remote).1.value =
      .ok outcome) :
    LeavesKept request now remote
      ((reconcile pageSize request now).run.play MemoryRemote.respond remote).2 := by
  obtain ⟨transcript, hruns, -, hanswered⟩ := Procedure.runs_of_play hok
  apply LeavesKept.of_live_eq
  obtain ⟨hjudged, ⟨hfinal, hkept⟩ | ⟨hfinal, hkept, -⟩⟩ :=
    reconcile_of_memory hremote hruns hanswered
  · rw [hfinal, live_cleared hjudged, if_neg fun hnone => kept_eq_nil_iff.mp hnone hkept]
    rfl
  · have hnone : remote.kept request now = [] := kept_eq_nil_iff.mpr hkept
    rw [hfinal, live_created, live_cleared hjudged, if_pos hnone]
    exact congrArg (· ++ [remote.created request]) hnone

/-- One of the two policies to the desired version is due too late and is cancelled. -/
theorem one_left_of_two :
    let policy : UpgradePolicy := { id := "7", version := "4.14.2", kind := .platform }
    let remote : MemoryRemote :=
      { policies :=
          [{ policy, status := { state := .scheduled } },
            { policy := { policy with id := "8" }, status := { state := .started } }] }
    let version : Version := { major := 4, minor := 14, patch := 2, preRelease := [] }
    let request : UpgradeRequest :=
      { target := .cluster "alpha"
        desired := { rawId := "4.14.2", version, channelGroup := none } }
    let left := ((reconcile 100 request .epoch).run.play MemoryRemote.respond remote).2
    (left.live request.target).length = 1 := by
  intro policy remote version request left
  have hremote : remote.IsFaithful :=
    { cap_pos := nofun, tellsTotal := ⟨rfl, by decide⟩, ids_nodup := by decide }
  have hok : ((reconcile 100 request .epoch).run.play MemoryRemote.respond remote).1.value =
      .ok (.alreadyScheduled remote.policies.tail ["7"]) := by
    apply ok_of_toOption_eq_some
    unfold reconcile previewPlan Listing.upgrades Listing.policies
    dsimp only
    rw [Listing.drainFrom]
    decide +kernel
  exact (reconcile_leavesKept hremote hok).one_live_iff.mpr (by decide +kernel)

/-- Two upgrades to the desired version are due within the window, and a pass leaves both. -/
theorem two_left_of_two :
    let policy : UpgradePolicy :=
      { id := "7", clusterId := "123", version := "4.14.1", kind := .platform
        nextRun := some (Instant.epoch.addMinutes 5) }
    let remote : MemoryRemote :=
      { policies :=
          [{ policy, status := { state := .scheduled } },
            { policy := { policy with id := "8", nextRun := some (Instant.epoch.addMinutes 6) }
              status := { state := .scheduled } }] }
    let version : Version := { major := 4, minor := 14, patch := 1, preRelease := [] }
    let request : UpgradeRequest :=
      { target := .cluster "123"
        desired := { rawId := "4.14.1", version, channelGroup := none } }
    let pass := (reconcile 100 request .epoch).run.play MemoryRemote.respond remote
    remote.IsFaithful ∧ remote.nextId ∉ remote.policies.map ExistingUpgrade.id ∧
      pass.1.value = .ok (.alreadyScheduled remote.policies []) ∧
        (pass.2.live request.target).length = 2 := by
  intro policy remote version request pass
  have hremote : remote.IsFaithful :=
    { cap_pos := nofun, tellsTotal := ⟨rfl, by decide⟩, ids_nodup := by decide }
  have hpass : pass.1.value.toOption = some (.alreadyScheduled remote.policies []) ∧
      (pass.2.live request.target).length = 2 := by
    unfold pass reconcile previewPlan Listing.upgrades Listing.policies
    dsimp only
    rw [Listing.drainFrom]
    decide +kernel
  exact ⟨hremote, by decide +kernel, ok_of_toOption_eq_some hpass.1, hpass.2⟩

end ClusterUpgrade
