import ClusterUpgrade.Proofs.Schedule.MemoryReading

/-!
Listings of the policies that are kept in memory. Main statement: `policies_drained`. Two rules end a
listing, the total that the pages tell and, where they tell none, a short page; under either of them
every policy that bears on the target is listed once, however the remote side caps its pages, and no
page is asked for in vain but the one that an overstated total calls for.
-/

namespace ClusterUpgrade.Listing

variable {remote : MemoryRemote} {target : Target} {transcript : Transcript} {pageSize count : Nat}

/-- Played against the remote side, a listing asks for so many pages, counted from one, and brings
back the policies that bear on the target, each once and in order. -/
def Drains (remote : MemoryRemote) (target : Target) (pageSize count : Nat) : Prop :=
  let listing := (policies target pageSize).run.play MemoryRemote.respond remote
  listing.1.value = .ok ((remote.policies.map ExistingUpgrade.policy).filter target.covers) ∧
    listing.1.questions = pageCalls target (max pageSize 1) 1 count ∧ listing.2 = remote

theorem runs_policies_iff {result : Except UpgradeError (List UpgradePolicy)} :
    (policies target pageSize).Runs transcript result ↔
      ∃ all, (drainFrom target (max pageSize 1) 1 []).Runs transcript all ∧
        result = all.map (List.filter target.covers) := by
  rw [policies, Procedure.runs_bind_iff]
  simp only [Procedure.runs_log_bind_iff, Procedure.runs_pure_iff]
  constructor
  · rintro (⟨error, hlist, rfl⟩ | ⟨_, _, all, rfl, hlist, rfl, rfl⟩)
    · exact ⟨_, hlist, rfl⟩
    · exact ⟨_, by rwa [List.append_nil], rfl⟩
  · rintro ⟨error | all, hlist, rfl⟩
    · exact .inl ⟨error, hlist, rfl⟩
    · exact .inr ⟨transcript, [], all, (List.append_nil _).symm, hlist, rfl, rfl⟩

theorem EndsAfter.drains (h : EndsAfter remote (max pageSize 1) count)
    (hsize : 1 ≤ remote.pageSize (max pageSize 1))
    (hlisting : ∀ page, remote.failure? (.listPolicies target page (max pageSize 1)) = none) :
    Drains remote target pageSize count := by
  obtain ⟨transcript, hruns, hquestions, hanswered⟩ :=
    Procedure.exists_runs MemoryRemote.respond (policies target pageSize) remote
  obtain ⟨all, hlist, hresult⟩ := runs_policies_iff.mp hruns
  have hreading : ∀ call ∈ transcript.calls, call.isReading = true := fun call hcall => by
    simp [RemoteCall.isReading, isListing_of_mem_pages hlist call hcall]
  obtain ⟨hfinal, hreplies⟩ := MemoryRemote.answered_of_reading hreading hanswered
  cases all with
  | error error =>
    obtain ⟨page, -, hfailure⟩ := exists_failure_of_pages hlist hreplies
    exact absurd (hlisting page) hfailure
  | ok all =>
    obtain ⟨rfl, hlength⟩ := h.drainFrom_of_memory hsize (Nat.zero_add 1).symm (h.pos hsize)
      (by simp) hlist hreplies
    obtain ⟨-, -, hcalls⟩ := (runs_drainFrom hlist).ok rfl
    refine ⟨hresult, ?_, hfinal⟩
    rw [← hquestions, ← hlength, Nat.zero_add]
    exact hcalls

/-- **The listing is drained.** For every page size, where zero counts as one, and every cap, as far
as totals and pages can be counted in 32 bits. -/
theorem policies_drained (hcap : ∀ cap, remote.pageCap = some cap → 1 ≤ cap)
    (hlisting : ∀ page, remote.failure? (.listPolicies target page (max pageSize 1)) = none) :
    let size := remote.pageSize (max pageSize 1)
    let number := remote.policies.length
    (0 < remote.total → number ≤ remote.total → remote.total < Text.bound32 →
      Drains remote target pageSize
        (number ⌈/⌉ size + if number < remote.total then 1 else 0)) ∧
    (remote.total = 0 → size = max pageSize 1 ∨ number = 0 → number / size < lastPage →
      Drains remote target pageSize (number / size + 1)) := by
  intro size number
  have hsize : 1 ≤ remote.pageSize (max pageSize 1) :=
    MemoryRemote.one_le_pageSize hcap (Nat.le_max_right ..)
  constructor
  · intro htold hcounts hfits
    exact (EndsAfter.told htold hcounts hfits).drains hsize hlisting
  · intro huntold hfull hfits
    have hends : EndsAfter remote (max pageSize 1) (number / size + 1) :=
      .untold huntold (hfull.imp_right List.length_eq_zero_iff.mp) hfits
    exact hends.drains hsize hlisting

/-- Four policies, one of them of a node pool. Pages of two and an overstated total call for a third,
empty page; without a total, so do pages of one or two that are asked for as such. -/
theorem drained_despite_cap :
    let upgrade (id : String) (kind : UpgradeKind) : ExistingUpgrade :=
      { policy := { id, kind }, status := { state := .pending } }
    let upgrades := [upgrade "1" .platform, upgrade "2" .nodePool, upgrade "3" .controlPlane,
      upgrade "4" .platform]
    let capped : MemoryRemote := { policies := upgrades, pageCap := some 2, reportedTotal := some 9 }
    let silent : MemoryRemote := { policies := upgrades, reportedTotal := some 0 }
    let target := Target.cluster "alpha"
    Drains capped target 100 3 ∧ Drains silent target 2 3 ∧ Drains silent target 0 5 := by
  intro upgrade upgrades capped silent target
  have hcap : ∀ cap, capped.pageCap = some cap → 1 ≤ cap := by
    rintro cap ⟨⟩
    decide
  have hcapped := @policies_drained capped target 100 hcap fun _ => rfl
  have hsilent (pageSize : Nat) := @policies_drained silent target pageSize nofun fun _ => rfl
  refine ⟨?_, ?_, ?_⟩
  · have hpages : 4 ⌈/⌉ 2 + (if 4 < 9 then 1 else 0) = 3 := by decide
    exact hpages ▸ hcapped.1 (by decide) (by decide) (by decide)
  · have hpages : 4 / 2 + 1 = 3 := by decide
    exact hpages ▸ (hsilent 2).2 rfl (.inl rfl) (by decide)
  · have hpages : 4 / 1 + 1 = 5 := by decide
    exact hpages ▸ (hsilent 0).2 rfl (.inl rfl) (by decide)

end ClusterUpgrade.Listing
