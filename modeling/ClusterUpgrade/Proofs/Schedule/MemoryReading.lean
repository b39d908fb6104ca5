import ClusterUpgrade.Proofs.Remote.Memory
import ClusterUpgrade.Proofs.Schedule.Reading
import Mathlib.Algebra.Order.Floor.Div

/-!
Reading the policies that are kept in memory. Main statement: `upgrades_of_memory`. However pages are
capped, the listing goes on until it has all policies, so a reading that ends well brings back the
policies that bear on the target, each with its state; and it fails only where a failure rule applies
to one of its calls.
-/

namespace ClusterUpgrade.Listing

open Transcript

variable {remote final : MemoryRemote} {target : Target} {transcript : Transcript}
  {size count pages : Nat}

/-! ### Pages -/

/-- After how many pages of a size a listing has come to its end. A total that is told counts every
policy; where none is told, pages are as long as was asked for, or there is nothing to list. Totals
and page numbers have 32 bits. -/
inductive EndsAfter (remote : MemoryRemote) (size : Nat) : Nat → Prop where
  | told (htold : 0 < remote.total) (hcounts : remote.policies.length ≤ remote.total)
      (hfits : remote.total < Text.bound32) :
      EndsAfter remote size (remote.policies.length ⌈/⌉ remote.pageSize size
        + if remote.policies.length < remote.total then 1 else 0)
  | untold (huntold : remote.total = 0)
      (hfull : remote.pageSize size = size ∨ remote.policies = [])
      (hfits : remote.policies.length / remote.pageSize size < lastPage) :
      EndsAfter remote size (remote.policies.length / remote.pageSize size + 1)

/-- The last page that can be asked for is never too early. -/
theorem EndsAfter.le_lastPage (h : EndsAfter remote size pages) (hsize : 1 ≤ remote.pageSize size) :
    pages ≤ lastPage := by
  cases h with
  | untold _ _ hfits => exact hfits
  | told _ hcounts hfits =>
    have hlast : remote.total ≤ lastPage := Nat.le_sub_one_of_lt hfits
    have hceil : remote.policies.length ⌈/⌉ remote.pageSize size ≤ remote.policies.length :=
      (ceilDiv_le_iff_le_mul hsize).mpr (Nat.le_mul_of_pos_left _ hsize)
    split <;> omega

theorem EndsAfter.pos (h : EndsAfter remote size pages) (hsize : 1 ≤ remote.pageSize size) :
    0 < pages := by
  cases h with
  | untold => exact Nat.succ_pos _
  | told htold hcounts _ =>
    by_cases hmore : remote.policies.length < remote.total
    · rw [if_pos hmore]
      exact Nat.succ_pos _
    · have hsome : ¬remote.policies.length ⌈/⌉ remote.pageSize size ≤ 0 := by
        rw [ceilDiv_le_iff_le_mul hsize]
        omega
      omega

/-- No policy stands behind the last page. -/
theorem EndsAfter.length_le (h : EndsAfter remote size pages) (hsize : 1 ≤ remote.pageSize size) :
    remote.policies.length ≤ pages * remote.pageSize size := by
  cases h with
  | untold =>
    rw [Nat.mul_comm]
    exact Nat.le_of_lt (Nat.lt_mul_div_succ _ hsize)
  | told =>
    rw [Nat.mul_comm, ← ceilDiv_le_iff_le_mul hsize]
    exact Nat.le_add_right ..

theorem EndsAfter.of_tellsTotal (h : remote.TellsTotal) : ∃ pages, EndsAfter remote size pages := by
  obtain ⟨htotal, hfits⟩ : remote.total = remote.policies.length ∧ _ := h
  by_cases hnone : remote.policies = []
  · refine ⟨_, .untold ?_ (.inr hnone) ?_⟩
    · rw [htotal, hnone, List.length_nil]
    · rw [hnone, List.length_nil, Nat.zero_div]
      decide
  · have hsome : 0 < remote.policies.length := List.length_pos_iff.mpr hnone
    exact ⟨_, .told (by omega) (by omega) (by omega)⟩

theorem take_append_page_items :
    (remote.policies.take (count * remote.pageSize size)).map ExistingUpgrade.policy
        ++ (remote.page (count + 1) size).items =
      (remote.policies.take ((count + 1) * remote.pageSize size)).map ExistingUpgrade.policy := by
  unfold MemoryRemote.page
  rw [Nat.add_sub_cancel, ← List.map_append, ← List.take_add, Nat.succ_mul]

theorem length_page_items :
    (remote.page (count + 1) size).items.length =
      min (remote.pageSize size) (remote.policies.length - count * remote.pageSize size) := by
  unfold MemoryRemote.page
  rw [List.length_map, List.length_take, List.length_drop, Nat.add_sub_cancel]

/-- The rule that ends a listing holds of the last page and of none before it. -/
theorem EndsAfter.isDrained_page_iff (h : EndsAfter remote size pages)
    (hsize : 1 ≤ remote.pageSize size) :
    isDrained size
        ((remote.policies.take ((count + 1) * remote.pageSize size)).map
          ExistingUpgrade.policy).length
        (remote.page (count + 1) size) = true ↔
      pages ≤ count + 1 := by
  have hreported : (remote.page (count + 1) size).total = remote.total := rfl
  have hnext : (count + 1) * remote.pageSize size =
      count * remote.pageSize size + remote.pageSize size := Nat.succ_mul ..
  rw [isDrained, Bool.or_eq_true, List.isEmpty_iff_length_eq_zero, hreported, length_page_items,
    List.length_map, List.length_take]
  cases h with
  | told htold hcounts _ =>
    have hceil : ∀ pages, remote.policies.length ⌈/⌉ remote.pageSize size ≤ pages ↔
        remote.policies.length ≤ pages * remote.pageSize size := fun pages =>
      (ceilDiv_le_iff_le_mul hsize).trans (by rw [Nat.mul_comm])
    rw [if_pos htold, decide_eq_true_eq]
    by_cases hmore : remote.policies.length < remote.total
    · rw [if_pos hmore, Nat.add_le_add_iff_right, hceil]
      omega
    · rw [if_neg hmore, add_zero, hceil]
      omega
  | untold huntold hfull _ =>
    have hfloor : remote.policies.length / remote.pageSize size + 1 ≤ count + 1 ↔
        remote.policies.length < (count + 1) * remote.pageSize size := by
      rw [Nat.succ_le_succ_iff, ← Nat.lt_succ_iff, Nat.div_lt_iff_lt_mul hsize]
    rw [if_neg (by omega), decide_eq_true_eq, hfloor]
    rcases hfull with hfull | hnone
    · omega
    · rw [hnone, List.length_nil]
      omega

/-- From any page on, a listing that does not fail asks for all pages up to the last one, and has all
policies then. -/
theorem EndsAfter.drainFrom_of_memory (h : EndsAfter remote size pages)
    (hsize : 1 ≤ remote.pageSize size) {page : Nat} {gathered all : List UpgradePolicy}
    (hpage : page = count + 1) (hcount : count < pages)
    (hgathered : gathered =
      (remote.policies.take (count * remote.pageSize size)).map ExistingUpgrade.policy)
    (hruns : (drainFrom target size page gathered).Runs transcript (.ok all))
    (hreplies : ∀ exchange ∈ transcript, exchange.2 = (remote.respond exchange.1).1) :
    all = remote.policies.map ExistingUpgrade.policy ∧ count + transcript.length = pages := by
  induction page, gathered using drainFrom.induct target size generalizing transcript count with
  | case1 page gathered ih =>
    subst hpage hgathered
    rcases runs_drainFrom_iff.mp hruns with ⟨failure, -, hall⟩ | ⟨response, rest, rfl, hrest⟩
    · cases hall
    obtain ⟨hreply, hothers⟩ := List.forall_mem_cons.mp hreplies
    obtain rfl := MemoryRemote.eq_page_of_respond hreply.symm
    rw [take_append_page_items] at hrest
    have hlast := h.le_lastPage hsize
    have hends : (isDrained size
        ((remote.policies.take ((count + 1) * remote.pageSize size)).map
          ExistingUpgrade.policy).length (remote.page (count + 1) size) = true ∨
        lastPage ≤ count + 1) ↔ pages ≤ count + 1 := by
      rw [h.isDrained_page_iff hsize]
      omega
    by_cases hdrained : pages ≤ count + 1
    · obtain rfl : pages = count + 1 := by omega
      rw [if_pos (hends.mpr hdrained)] at hrest
      obtain ⟨rfl, hall⟩ := hrest
      cases hall
      rw [List.take_of_length_le (h.length_le hsize)]
      exact ⟨rfl, rfl⟩
    · rw [if_neg (mt hends.mp hdrained)] at hrest
      rw [← take_append_page_items] at hrest
      obtain ⟨hall, hlength⟩ := ih (remote.page (count + 1) size) (by omega) rfl (by omega)
        take_append_page_items hrest hothers
      refine ⟨hall, ?_⟩
      rw [List.length_cons]
      omega

/-- A listing fails only where a failure rule applies to one of its pages. -/
theorem exists_failure_of_pages {page : Nat} {gathered : List UpgradePolicy} {error : UpgradeError}
    (hlist : (drainFrom target size page gathered).Runs transcript (.error error))
    (hreplies : ∀ exchange ∈ transcript, exchange.2 = (remote.respond exchange.1).1) :
    ∃ page, .listPolicies target page size ∈ transcript.calls ∧
      remote.failure? (.listPolicies target page size) ≠ none := by
  obtain ⟨front, call, failure, rfl, -, -⟩ := (runs_drainFrom hlist).breaksOff
  have hlast : call ∈ calls (front ++ [⟨call, .error failure⟩]) := by simp
  obtain ⟨page, -, rfl⟩ := List.mem_map.mp ((runs_drainFrom hlist).mem_script hlast)
  refine ⟨page, hlast, fun hnone => ?_⟩
  exact MemoryRemote.respond_listPolicies_ne_error hnone
    (hreplies _ (List.mem_append_right front List.mem_cons_self)).symm

/-! ### States -/

theorem withStatus_of_memory (hids : (remote.policies.map ExistingUpgrade.id).Nodup)
    {upgrades found : List ExistingUpgrade} (hmem : ∀ upgrade ∈ upgrades, upgrade ∈ remote.policies)
    (h : (withStatus target (upgrades.map ExistingUpgrade.policy)).Runs transcript (.ok found))
    (hreplies : ∀ exchange ∈ transcript, exchange.2 = (remote.respond exchange.1).1) :
    found = upgrades := by
  induction upgrades generalizing transcript found with
  | nil =>
    obtain ⟨-, hfound⟩ := Procedure.runs_pure_iff.mp h
    cases hfound
    rfl
  | cons upgrade rest ih =>
    rw [List.map_cons, withStatus, status, Procedure.runs_call_bind_iff] at h
    rcases h with ⟨failure, -, hfound⟩ | ⟨status, more, rfl, hmore⟩
    · cases hfound
    rw [Procedure.runs_log_bind_iff, Procedure.runs_bind_pure_iff] at hmore
    obtain ⟨(error | others), hothers, hfound⟩ := hmore
    · cases hfound
    cases hfound
    obtain ⟨hupgrade, hmem⟩ := List.forall_mem_cons.mp hmem
    obtain ⟨hreply, hreplies⟩ := List.forall_mem_cons.mp hreplies
    rw [ih hmem hothers hreplies,
      MemoryRemote.eq_status_of_respond hids hupgrade hreply.symm]

/-! ### The whole reading -/

theorem covered_of_memory {pages : Transcript}
    (hlisted : pages.listed = remote.policies.map ExistingUpgrade.policy) :
    pages.covered target = (remote.covered target).map ExistingUpgrade.policy := by
  rw [Transcript.covered, hlisted, MemoryRemote.covered, List.filter_map]
  rfl

theorem mem_policies_of_mem_covered {upgrade : ExistingUpgrade}
    (hmem : upgrade ∈ remote.covered target) : upgrade ∈ remote.policies :=
  (List.mem_filter.mp hmem).1

theorem listed_of_memory (hremote : remote.IsFaithful) {pageSize : Nat} {pages : Transcript}
    (hlist : (drainFrom target (max pageSize 1) 1 []).Runs pages (.ok pages.listed))
    (hreplies : ∀ exchange ∈ pages, exchange.2 = (remote.respond exchange.1).1) :
    pages.listed = remote.policies.map ExistingUpgrade.policy := by
  have hsize : 1 ≤ remote.pageSize (max pageSize 1) :=
    MemoryRemote.one_le_pageSize hremote.cap_pos (Nat.le_max_right ..)
  obtain ⟨_, hends⟩ := EndsAfter.of_tellsTotal hremote.tellsTotal
  exact (hends.drainFrom_of_memory hsize (Nat.zero_add 1).symm (hends.pos hsize) (by simp) hlist
    hreplies).1

theorem isReading_of_runs_upgrades {pageSize : Nat}
    {result : Except UpgradeError (List ExistingUpgrade)}
    (h : (upgrades target pageSize).Runs transcript result) :
    ∀ call ∈ transcript.calls, call.isReading = true := fun _ hcall =>
  isReading_of_mem_readingCalls ((runs_upgrades h).mem_script hcall)

/-- **Reading from memory.** The remote side stays as it is, and what comes back are its policies
that bear on the target. -/
theorem upgrades_of_memory (hremote : remote.IsFaithful) {pageSize : Nat}
    {found : List ExistingUpgrade} (h : (upgrades target pageSize).Runs transcript (.ok found))
    (hanswered : Dialogue.Answered MemoryRemote.respond remote transcript final) :
    final = remote ∧ found = remote.covered target := by
  obtain ⟨hfinal, hreplies⟩ :=
    MemoryRemote.answered_of_reading (isReading_of_runs_upgrades h) hanswered
  refine ⟨hfinal, ?_⟩
  cases reads_of_runs h with
  | listed hlist hlookup =>
    obtain ⟨hpages, hstates⟩ := List.forall_mem_append.mp hreplies
    rw [covered_of_memory (listed_of_memory hremote hlist hpages)] at hlookup
    exact withStatus_of_memory hremote.ids_nodup (fun upgrade => mem_policies_of_mem_covered)
      hlookup hstates

/-- A reading from memory fails only where a failure rule applies to one of its calls. -/
theorem exists_failure_of_memory (hremote : remote.IsFaithful) {pageSize : Nat}
    {error : UpgradeError} (h : (upgrades target pageSize).Runs transcript (.error error))
    (hanswered : Dialogue.Answered MemoryRemote.respond remote transcript final) :
    ∃ call ∈ transcript.calls, call.isReading = true ∧ remote.failure? call ≠ none := by
  have hreading := isReading_of_runs_upgrades h
  obtain ⟨-, hreplies⟩ := MemoryRemote.answered_of_reading hreading hanswered
  cases reads_of_runs h with
  | unlisted hlist =>
    obtain ⟨page, hpage, hfailure⟩ := exists_failure_of_pages hlist hreplies
    exact ⟨_, hpage, rfl, hfailure⟩
  | @listed pages states _ hlist hlookup =>
    obtain ⟨hpages, hstates⟩ := List.forall_mem_append.mp hreplies
    rw [covered_of_memory (listed_of_memory hremote hlist hpages)] at hlookup
    obtain ⟨front, call, failure, rfl, -, -⟩ := (runs_withStatus hlookup).breaksOff
    have hlast : call ∈ calls (front ++ [⟨call, .error failure⟩]) := by simp
    have hcall : call ∈ calls (pages ++ (front ++ [⟨call, .error failure⟩])) := by simp
    refine ⟨call, hcall, hreading call hcall, fun hnone => ?_⟩
    obtain ⟨policy, hpolicy, rfl⟩ := List.mem_map.mp ((runs_withStatus hlookup).mem_script hlast)
    obtain ⟨upgrade, hcovered, rfl⟩ := List.mem_map.mp hpolicy
    exact MemoryRemote.respond_policyStatus_ne_error hremote.ids_nodup
      (mem_policies_of_mem_covered hcovered) hnone
      (hstates _ (List.mem_append_right front List.mem_cons_self)).symm

end ClusterUpgrade.Listing
