import ClusterUpgrade.Proofs.Procedure.Script
import ClusterUpgrade.Schedule.Listing

/-!
The calls by which the existing policies are read. All pages are asked for one after the other, then
the state of every listed policy that bears on the target. Main statement: `runs_upgrades`, what is
read is what the transcript shows, or a failed call breaks the reading off.
-/

namespace ClusterUpgrade.Listing

open Transcript

variable {target : Target} {transcript : Transcript}

def pageCalls (target : Target) (size page count : Nat) : List RemoteCall :=
  (List.range' page count).map fun page => .listPolicies target page size

def statusCalls (target : Target) (policies : List UpgradePolicy) : List RemoteCall :=
  policies.map fun policy => .policyStatus target policy.id

/-- The calls of a reading: pages from the first on, then the states of what they list. -/
def readingCalls (target : Target) (pageSize : Nat) (transcript : Transcript) : List RemoteCall :=
  pageCalls target (max pageSize 1) 1 transcript.pageCount
    ++ statusCalls target (transcript.covered target)

theorem readingCalls_append {pageSize : Nat} {rest : Transcript}
    (h : ∀ call ∈ rest.calls, call.isReading = false) :
    readingCalls target pageSize (transcript ++ rest) = readingCalls target pageSize transcript := by
  have hlisting : ∀ call ∈ rest.calls, call.isListing = false := fun call hcall =>
    (Bool.or_eq_false_iff.mp (h call hcall)).1
  rw [readingCalls, readingCalls, covered, covered, pageCount_append, listed_append,
    pageCount_eq_zero hlisting, listed_eq_nil hlisting, List.append_nil, Nat.add_zero]

theorem observed_append {rest : Transcript} (h : ∀ call ∈ rest.calls, call.isReading = false) :
    observed target (transcript ++ rest) = transcript.observed target := by
  have hlisting : ∀ call ∈ rest.calls, call.isListing = false := fun call hcall =>
    (Bool.or_eq_false_iff.mp (h call hcall)).1
  have hstatus : ∀ call ∈ rest.calls, call.isStatus = false := fun call hcall =>
    (Bool.or_eq_false_iff.mp (h call hcall)).2
  rw [observed, observed, covered, covered, listed_append, statuses_append, listed_eq_nil hlisting,
    statuses_eq_nil hstatus, List.append_nil, List.append_nil]

theorem isListing_of_mem_pageCalls {size page count : Nat} {call : RemoteCall}
    (h : call ∈ pageCalls target size page count) : call.isListing = true := by
  obtain ⟨page, -, rfl⟩ := List.mem_map.mp h
  rfl

theorem isStatus_of_mem_statusCalls {policies : List UpgradePolicy} {call : RemoteCall}
    (h : call ∈ statusCalls target policies) : call.isStatus = true := by
  obtain ⟨policy, -, rfl⟩ := List.mem_map.mp h
  rfl

theorem isReading_of_mem_readingCalls {pageSize : Nat} {call : RemoteCall}
    (h : call ∈ readingCalls target pageSize transcript) : call.isReading = true := by
  rcases List.mem_append.mp h with h | h
  · simp [RemoteCall.isReading, isListing_of_mem_pageCalls h]
  · simp [RemoteCall.isReading, isStatus_of_mem_statusCalls h]

/-- One page: the listing breaks off, ends with this page, or goes on behind it. -/
theorem runs_drainFrom_iff {size page : Nat} {gathered : List UpgradePolicy}
    {result : Except UpgradeError (List UpgradePolicy)} :
    (drainFrom target size page gathered).Runs transcript result ↔
      (∃ failure, transcript = [⟨.listPolicies target page size, .error failure⟩] ∧
        result = .error (.remote "list upgrade policies" target.text failure)) ∨
      ∃ (response : PolicyPage) (rest : Transcript),
        transcript = ⟨.listPolicies target page size, .ok response⟩ :: rest ∧
        if isDrained size (gathered ++ response.items).length response = true ∨ lastPage ≤ page then
          rest = [] ∧ result = .ok (gathered ++ response.items)
        else
          (drainFrom target size (page + 1) (gathered ++ response.items)).Runs rest result := by
  rw [drainFrom, Procedure.runs_call_bind_iff]
  refine or_congr_right (exists_congr fun response => exists_congr fun rest => and_congr_right' ?_)
  by_cases hdrained : isDrained size (gathered ++ response.items).length response = true
  · simp only [hdrained, if_true, true_or, Procedure.runs_pure_iff]
  · by_cases hpage : page < lastPage
    · simp only [hdrained, hpage, if_true, Nat.not_le.mpr hpage, or_self, if_false,
        Bool.false_eq_true]
    · simp only [hdrained, hpage, Nat.not_lt.mp hpage, or_true, if_true, if_false,
        Bool.false_eq_true, Procedure.runs_pure_iff]

theorem runs_drainFrom {size page : Nat} {gathered : List UpgradePolicy}
    {result : Except UpgradeError (List UpgradePolicy)}
    (h : (drainFrom target size page gathered).Runs transcript result) :
    Performs target (pageCalls target size page transcript.length) (gathered ++ transcript.listed)
      transcript result := by
  induction page, gathered using drainFrom.induct target size generalizing transcript result with
  | case1 page gathered ih =>
    rcases runs_drainFrom_iff.mp h with ⟨failure, rfl, rfl⟩ | ⟨response, rest, rfl, hrest⟩
    · exact performs_of_failure
    -- The rest of the listing is a script of its own, whatever ends it.
    · have hstep : Performs target (pageCalls target size (page + 1) rest.length)
          (gathered ++ response.items ++ rest.listed) rest result := by
        split at hrest
        · obtain ⟨rfl, rfl⟩ := hrest
          simpa [pageCalls] using performs_nil (gathered ++ response.items)
        · rename_i hgoes
          exact ih response (by omega) hrest
      have hcons := hstep.cons id (.listPolicies target page size) response
      rw [List.append_assoc] at hcons
      cases result <;> exact hcons

theorem runs_withStatus {policies : List UpgradePolicy}
    {result : Except UpgradeError (List ExistingUpgrade)}
    (h : (withStatus target policies).Runs transcript result) :
    Performs target (statusCalls target policies)
      (List.zipWith ExistingUpgrade.mk policies transcript.statuses) transcript result := by
  induction policies generalizing transcript result with
  | nil =>
    obtain ⟨rfl, rfl⟩ := Procedure.runs_pure_iff.mp h
    exact performs_nil []
  | cons policy rest ih =>
    rw [withStatus, status, Procedure.runs_call_bind_iff] at h
    rcases h with ⟨failure, rfl, rfl⟩ | ⟨status, more, rfl, hmore⟩
    · exact performs_of_failure
    · rw [Procedure.runs_log_bind_iff, Procedure.runs_bind_pure_iff] at hmore
      obtain ⟨inner, hinner, rfl⟩ := hmore
      exact (ih hinner).cons (List.cons { policy, status }) (.policyStatus target policy.id) status

theorem mem_of_runs_withStatus {policies : List UpgradePolicy}
    {result : Except UpgradeError (List ExistingUpgrade)}
    (h : (withStatus target policies).Runs transcript result) {upgrade : ExistingUpgrade}
    (hmem : upgrade ∈ List.zipWith ExistingUpgrade.mk policies transcript.statuses) :
    upgrade.policy ∈ policies ∧
      (⟨.policyStatus target upgrade.id, .ok upgrade.status⟩ : RemoteExchange) ∈ transcript := by
  induction policies generalizing transcript result with
  | nil => cases hmem
  | cons policy rest ih =>
    rw [withStatus, status, Procedure.runs_call_bind_iff] at h
    rcases h with ⟨failure, rfl, rfl⟩ | ⟨status, more, rfl, hmore⟩
    · cases hmem
    · rw [Procedure.runs_log_bind_iff, Procedure.runs_bind_pure_iff] at hmore
      obtain ⟨inner, hinner, -⟩ := hmore
      rcases List.mem_cons.mp hmem with rfl | hmem
      · exact ⟨List.mem_cons_self, List.mem_cons_self⟩
      · obtain ⟨hpolicy, hfetched⟩ := ih hinner hmem
        exact ⟨List.mem_cons_of_mem policy hpolicy, List.mem_cons_of_mem _ hfetched⟩

/-! ### The whole reading -/

/-- How a reading goes: the listing breaks off, or the states of what it lists are looked up. -/
inductive Reads (target : Target) (pageSize : Nat) :
    Transcript → Except UpgradeError (List ExistingUpgrade) → Prop where
  | unlisted {pages : Transcript} {error : UpgradeError}
      (hlist : (drainFrom target (max pageSize 1) 1 []).Runs pages (.error error)) :
      Reads target pageSize pages (.error error)
  | listed {pages states : Transcript} {result : Except UpgradeError (List ExistingUpgrade)}
      (hlist : (drainFrom target (max pageSize 1) 1 []).Runs pages (.ok pages.listed))
      (hlookup : (withStatus target (pages.covered target)).Runs states result) :
      Reads target pageSize (pages ++ states) result

variable {pageSize : Nat} {result : Except UpgradeError (List ExistingUpgrade)}

theorem reads_of_runs (h : (upgrades target pageSize).Runs transcript result) :
    Reads target pageSize transcript result := by
  rw [upgrades, policies, bind_assoc, Procedure.runs_bind_iff] at h
  rcases h with ⟨error, hlist, rfl⟩ | ⟨pages, states, all, rfl, hlist, hlookup⟩
  · exact .unlisted hlist
  · obtain ⟨hall, -⟩ := (runs_drainFrom hlist).ok rfl
    rw [List.nil_append] at hall
    subst hall
    rw [bind_assoc, Procedure.runs_log_bind_iff, pure_bind] at hlookup
    exact .listed hlist hlookup

section Listed

variable {pages states : Transcript}

theorem isListing_of_mem_pages {result : Except UpgradeError (List UpgradePolicy)}
    (hlist : (drainFrom target (max pageSize 1) 1 []).Runs pages result) :
    ∀ call ∈ pages.calls, call.isListing = true := fun _ hcall =>
  isListing_of_mem_pageCalls ((runs_drainFrom hlist).mem_script hcall)

theorem isStatus_of_mem_states {policies : List UpgradePolicy}
    (hlookup : (withStatus target policies).Runs states result) :
    ∀ call ∈ states.calls, call.isStatus = true := fun _ hcall =>
  isStatus_of_mem_statusCalls ((runs_withStatus hlookup).mem_script hcall)

theorem readingCalls_of_listed
    (hlist : (drainFrom target (max pageSize 1) 1 []).Runs pages (.ok pages.listed))
    (hlookup : (withStatus target (pages.covered target)).Runs states result) :
    readingCalls target pageSize (pages ++ states) =
      pageCalls target (max pageSize 1) 1 pages.length
        ++ statusCalls target (pages.covered target) := by
  have hnone : ∀ call ∈ states.calls, call.isListing = false := fun call hcall =>
    RemoteCall.isListing_of_isStatus (isStatus_of_mem_states hlookup call hcall)
  rw [readingCalls, covered, covered, pageCount_append, listed_append,
    pageCount_eq_length (isListing_of_mem_pages hlist), pageCount_eq_zero hnone,
    listed_eq_nil hnone, List.append_nil, Nat.add_zero]

theorem observed_of_listed
    (hlist : (drainFrom target (max pageSize 1) 1 []).Runs pages (.ok pages.listed))
    (hlookup : (withStatus target (pages.covered target)).Runs states result) :
    observed target (pages ++ states) =
      List.zipWith ExistingUpgrade.mk (pages.covered target) states.statuses := by
  have hnone : ∀ call ∈ states.calls, call.isListing = false := fun call hcall =>
    RemoteCall.isListing_of_isStatus (isStatus_of_mem_states hlookup call hcall)
  have hpages : pages.statuses = [] := statuses_eq_nil fun call hcall =>
    RemoteCall.isStatus_of_isListing (isListing_of_mem_pages hlist call hcall)
  rw [observed, covered, covered, listed_append, statuses_append, listed_eq_nil hnone, hpages,
    List.append_nil, List.nil_append]

end Listed

/-- **The reading.** What comes back are the listed policies that bear on the target with the states
that were fetched, unless a failed call breaks the reading off. -/
theorem runs_upgrades (h : (upgrades target pageSize).Runs transcript result) :
    Performs target (readingCalls target pageSize transcript) (transcript.observed target)
      transcript result := by
  cases reads_of_runs h with
  | unlisted hlist =>
    rw [readingCalls, pageCount_eq_length (isListing_of_mem_pages hlist)]
    exact (runs_drainFrom hlist).extend
  | listed hlist hlookup =>
    rw [readingCalls_of_listed hlist hlookup, observed_of_listed hlist hlookup]
    exact (runs_drainFrom hlist).append (runs_withStatus hlookup)

theorem mem_of_mem_observed (h : (upgrades target pageSize).Runs transcript result)
    {upgrade : ExistingUpgrade} (hmem : upgrade ∈ transcript.observed target) :
    upgrade.policy ∈ transcript.covered target ∧
      (⟨.policyStatus target upgrade.id, .ok upgrade.status⟩ : RemoteExchange) ∈ transcript := by
  cases reads_of_runs h with
  | unlisted hlist =>
    have hnone : transcript.statuses = [] := statuses_eq_nil fun call hcall =>
      RemoteCall.isStatus_of_isListing (isListing_of_mem_pages hlist call hcall)
    rw [observed, hnone, List.zipWith_nil_right] at hmem
    cases hmem
  | listed hlist hlookup =>
    rw [observed_of_listed hlist hlookup] at hmem
    obtain ⟨hpolicy, hfetched⟩ := mem_of_runs_withStatus hlookup hmem
    refine ⟨?_, List.mem_append_right _ hfetched⟩
    rw [covered, listed_append, List.filter_append]
    exact List.mem_append_left _ hpolicy

end ClusterUpgrade.Listing
