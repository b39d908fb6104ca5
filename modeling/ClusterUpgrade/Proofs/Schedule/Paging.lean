import ClusterUpgrade.Proofs.Schedule.Draining

/-!
Listings that come to an end. Main statement: `policies_ends`. A remote side may tell another total
on every page and list whatever it likes; as long as no total is zero or above a limit, the listing
ends within so many pages, by its own rule and not because page numbers run out.

A page that does not end the listing brings at least one policy and leaves fewer than its total, so
the number of pages never gets ahead of the number of policies, which stays below the limit.
-/

namespace ClusterUpgrade.Listing

open Procedure

variable {σ : Type} {respond : σ → (call : RemoteCall) → call.Reply × σ} {remote final : σ}
  {target : Target} {transcript : Transcript} {response : PolicyPage} {size limit : Nat}

/-- The pages of a listing that has gathered so many policies before them, up to the first page that
ends it. There is no bound on their number. -/
inductive Complete (size : Nat) : (gathered : Nat) → List PolicyPage → Prop where
  | last {gathered : Nat} {page : PolicyPage}
      (hends : isDrained size (gathered + page.items.length) page = true) :
      Complete size gathered [page]
  | more {gathered : Nat} {page : PolicyPage} {rest : List PolicyPage}
      (hgoes : isDrained size (gathered + page.items.length) page = false)
      (hrest : Complete size (gathered + page.items.length) rest) :
      Complete size gathered (page :: rest)

/-- However a listing has got on, the next page tells a total from one up to a limit. -/
def TellsTotals (respond : σ → (call : RemoteCall) → call.Reply × σ) (target : Target)
    (size limit : Nat) : Prop :=
  ∀ remote page, ∃ response, (respond remote (.listPolicies target page size)).1 = .ok response ∧
    1 ≤ response.total ∧ response.total ≤ limit

/-- Pages that are asked for one after the other, with their answers. -/
def pageExchanges (target : Target) (size : Nat) : (page : Nat) → List PolicyPage → Transcript
  | _, [] => []
  | page, response :: rest =>
    ⟨.listPolicies target page size, .ok response⟩ :: pageExchanges target size (page + 1) rest

theorem calls_pageExchanges {page : Nat} {pages : List PolicyPage} :
    (pageExchanges target size page pages).calls = pageCalls target size page pages.length := by
  induction pages generalizing page with
  | nil => rfl
  | cons response rest ih =>
    rw [List.length_cons, pageCalls, List.range'_succ, List.map_cons, ← pageCalls, ← ih]
    rfl

/-- Where `gathered` counts the items of this page too. -/
theorem room_of_not_isDrained {gathered : Nat} (hgoes : isDrained size gathered response = false)
    (htold : 1 ≤ response.total) (hlimit : response.total ≤ limit) :
    1 ≤ response.items.length ∧ gathered < limit := by
  rw [isDrained, if_pos (show 0 < response.total from htold), Bool.or_eq_false_iff,
    List.isEmpty_eq_false_iff, decide_eq_false_iff_not] at hgoes
  exact ⟨List.length_pos_iff.mpr hgoes.1, by omega⟩

/-- From any page on. The number of the page is ahead of the gathered policies by one at most. -/
theorem complete_of_runs_drainFrom (htotals : TellsTotals respond target size limit)
    (hlimit : limit ≤ lastPage) {page : Nat} {gathered : List UpgradePolicy}
    {result : Except UpgradeError (List UpgradePolicy)} (hpage : page ≤ gathered.length + 1)
    (hroom : gathered.length < limit)
    (hruns : (drainFrom target size page gathered).Runs transcript result)
    (hanswered : Dialogue.Answered respond remote transcript final) :
    ∃ pages, Complete size gathered.length pages ∧ page + pages.length ≤ limit + 1 ∧
      transcript = pageExchanges target size page pages ∧
      result = .ok (gathered ++ pages.flatMap (·.items)) := by
  induction page, gathered using drainFrom.induct target size
    generalizing transcript result remote with
  | case1 page gathered ih =>
    obtain ⟨told, htold, hlow, hhigh⟩ := htotals remote page
    rcases runs_drainFrom_iff.mp hruns with ⟨failure, rfl, -⟩ | ⟨response, rest, rfl, hrest⟩
    · cases hanswered.1.trans htold
    obtain ⟨hreply, hothers⟩ := hanswered
    obtain rfl : response = told := Except.ok.inj (hreply.trans htold)
    have hcount : (gathered ++ response.items).length = gathered.length + response.items.length :=
      List.length_append
    cases hends : isDrained size (gathered ++ response.items).length response with
    | true =>
      rw [if_pos (.inl hends)] at hrest
      obtain ⟨rfl, rfl⟩ := hrest
      refine ⟨[response], .last (hcount ▸ hends), ?_, rfl, ?_⟩
      · rw [List.length_singleton]
        omega
      · rw [List.flatMap_singleton]
    | false =>
      obtain ⟨hsome, hleft⟩ := room_of_not_isDrained hends hlow hhigh
      have hnext : ¬lastPage ≤ page := by omega
      rw [if_neg (not_or.mpr ⟨ne_true_of_eq_false hends, hnext⟩)] at hrest
      obtain ⟨pages, hcomplete, hbound, rfl, hresult⟩ :=
        ih response (by omega) (by omega) hleft hrest hothers
      refine ⟨response :: pages, .more (hcount ▸ hends) (hcount ▸ hcomplete), ?_, rfl, ?_⟩
      · rw [List.length_cons]
        omega
      · rw [hresult, List.flatMap_cons, List.append_assoc]

theorem mem_pageCalls_iff {page count : Nat} {call : RemoteCall} :
    call ∈ pageCalls target size page count ↔
      ∃ asked, page ≤ asked ∧ asked < page + count ∧ call = .listPolicies target asked size := by
  simp only [pageCalls, List.mem_map, List.mem_range'_1, and_assoc, eq_comm]

/-- **A listing with told totals ends.** It does so by its own rule, after as many pages as the
greatest total at most, and with what those pages hold; no greater page number is asked for. -/
theorem policies_ends {pageSize : Nat} (hlimit : limit < Text.bound32)
    (htotals : TellsTotals respond target (max pageSize 1) limit) :
    let listing := (policies target pageSize).run.play respond remote
    ∃ pages, Complete (max pageSize 1) 0 pages ∧ pages.length ≤ limit ∧
      Dialogue.Answered respond remote (pageExchanges target (max pageSize 1) 1 pages) listing.2 ∧
      listing.1.questions = pageCalls target (max pageSize 1) 1 pages.length ∧
      listing.1.value = .ok ((pages.flatMap (·.items)).filter target.covers) ∧
      ∀ call ∈ listing.1.questions, ∃ page, call = .listPolicies target page (max pageSize 1) ∧
        page ≤ limit := by
  intro listing
  obtain ⟨transcript, hruns, hquestions, hanswered⟩ :=
    Procedure.exists_runs respond (policies target pageSize) remote
  obtain ⟨all, hlist, hresult⟩ := runs_policies_iff.mp hruns
  obtain ⟨told, -, hlow, hhigh⟩ := htotals remote 1
  have hroom : ([] : List UpgradePolicy).length < limit := hlow.trans hhigh
  have hlast : limit ≤ lastPage := Nat.le_sub_one_of_lt hlimit
  obtain ⟨pages, hcomplete, hbound, rfl, rfl⟩ :=
    complete_of_runs_drainFrom htotals hlast (Nat.le_refl 1) hroom hlist hanswered
  have hasked : listing.1.questions = pageCalls target (max pageSize 1) 1 pages.length :=
    hquestions.symm.trans calls_pageExchanges
  refine ⟨pages, hcomplete, by omega, hanswered, hasked, hresult, fun call hcall => ?_⟩
  rw [hasked, mem_pageCalls_iff] at hcall
  obtain ⟨page, -, hpage, rfl⟩ := hcall
  exact ⟨page, rfl, by omega⟩

/-- A remote side that tells five policies and four in turn, and lists the same one on each page. It
is asked for four pages. -/
theorem policies_ends_moving :
    let policy : UpgradePolicy := { id := "1" }
    let respond (answered : Nat) : (call : RemoteCall) → call.Reply × Nat
      | .listPolicies .. =>
        (.ok { items := [policy], total := if answered % 2 = 0 then 5 else 4 }, answered + 1)
      | _ => (.error (.transport "lists policies only"), answered)
    let target := Target.cluster "alpha"
    let listing := ((policies target 1).run.play respond 0).1
    TellsTotals respond target 1 5 ∧
      (∃ pages, Complete 1 0 pages ∧ listing.questions = pageCalls target 1 1 pages.length) ∧
      listing.questions.length = 4 := by
  intro policy respond target listing
  have htotals : TellsTotals respond target 1 5 := fun answered page => by
    refine ⟨{ items := [policy], total := if answered % 2 = 0 then 5 else 4 }, rfl, ?_, ?_⟩
    · dsimp only
      split <;> decide
    · dsimp only
      split <;> decide
  obtain ⟨pages, hcomplete, -, -, hquestions, -⟩ :=
    @policies_ends Nat respond 0 target 5 1 (by decide) htotals
  exact ⟨htotals, ⟨pages, hcomplete, hquestions⟩, by decide +kernel⟩

end ClusterUpgrade.Listing
