import ClusterUpgrade.Proofs.Procedure.Transcript
import ClusterUpgrade.Remote.Memory
import Mathlib.Data.List.Nodup

/-!
What the remote side in memory answers. Only deletions and creations change it, so along other calls
every reply is the one that it gives at the start; a reading call fails only by a failure rule.
-/

namespace ClusterUpgrade.MemoryRemote

variable {remote final : MemoryRemote} {target : Target} {call : RemoteCall}
  {failure : RemoteFailure}

/-- What every page reports as the total. -/
def total (remote : MemoryRemote) : Nat := remote.reportedTotal.getD remote.policies.length

/-- The total on every page is the number of policies, which fits the 32 bits of its field. -/
def TellsTotal (remote : MemoryRemote) : Prop :=
  remote.reportedTotal.getD remote.policies.length = remote.policies.length ∧
    remote.policies.length < Text.bound32

/-- Pages are not capped to nothing, the total is true, and no two policies share an id. -/
structure IsFaithful (remote : MemoryRemote) : Prop where
  cap_pos : ∀ cap, remote.pageCap = some cap → 1 ≤ cap
  tellsTotal : remote.TellsTotal
  ids_nodup : (remote.policies.map ExistingUpgrade.id).Nodup

def covered (target : Target) (remote : MemoryRemote) : List ExistingUpgrade :=
  remote.policies.filter fun upgrade => target.covers upgrade.policy

theorem one_le_pageSize (hcap : ∀ cap, remote.pageCap = some cap → 1 ≤ cap) {size : Nat}
    (hsize : 1 ≤ size) : 1 ≤ remote.pageSize size := by
  unfold pageSize
  cases hpageCap : remote.pageCap with
  | none => exact hsize
  | some cap => exact Nat.le_min.mpr ⟨hsize, hcap cap hpageCap⟩

theorem policy?_id (hids : (remote.policies.map ExistingUpgrade.id).Nodup)
    {upgrade : ExistingUpgrade} (hmem : upgrade ∈ remote.policies) :
    remote.policy? upgrade.id = some upgrade := by
  unfold policy?
  cases hfind : remote.policies.find? (·.id == upgrade.id) with
  | none => exact absurd (List.find?_eq_none.mp hfind upgrade hmem) (by simp)
  | some found =>
    have hid : found.id = upgrade.id := by simpa using List.find?_some hfind
    rw [List.inj_on_of_nodup_map hids (List.mem_of_find?_eq_some hfind) hmem hid]

/-! ### Replies -/

theorem respond_of_failure?_eq_none (h : remote.failure? call = none) :
    remote.respond call = remote.perform call := by
  rw [respond, h]

theorem respond_of_failure?_eq_some (h : remote.failure? call = some failure) :
    remote.respond call = (.error failure, remote) := by
  rw [respond, h]

theorem respond_of_ok {answer : call.Answer} (h : (remote.respond call).1 = .ok answer) :
    remote.respond call = remote.perform call := by
  cases hfailure : remote.failure? call with
  | none => exact respond_of_failure?_eq_none hfailure
  | some failure =>
    rw [respond_of_failure?_eq_some hfailure] at h
    cases h

theorem eq_page_of_respond {page size : Nat} {response : PolicyPage}
    (h : (remote.respond (.listPolicies target page size)).1 = .ok response) :
    response = remote.page page size := by
  rw [respond_of_ok h] at h
  cases h
  rfl

theorem eq_status_of_respond (hids : (remote.policies.map ExistingUpgrade.id).Nodup)
    {upgrade : ExistingUpgrade} (hmem : upgrade ∈ remote.policies) {status : PolicyStatus}
    (h : (remote.respond (.policyStatus target upgrade.id)).1 = .ok status) :
    status = upgrade.status := by
  rw [respond_of_ok h, perform, policy?_id hids hmem] at h
  cases h
  rfl

theorem respond_listPolicies_ne_error {page size : Nat}
    (h : remote.failure? (.listPolicies target page size) = none) :
    (remote.respond (.listPolicies target page size)).1 ≠ .error failure := by
  rw [respond_of_failure?_eq_none h]
  intro herror
  cases herror

theorem respond_policyStatus_ne_error (hids : (remote.policies.map ExistingUpgrade.id).Nodup)
    {upgrade : ExistingUpgrade} (hmem : upgrade ∈ remote.policies)
    (h : remote.failure? (.policyStatus target upgrade.id) = none) :
    (remote.respond (.policyStatus target upgrade.id)).1 ≠ .error failure := by
  rw [respond_of_failure?_eq_none h, perform, policy?_id hids hmem]
  intro herror
  cases herror

/-! ### Calls in sequence -/

/-- A call that neither deletes nor creates leaves everything as it is. -/
theorem respond_snd (hdeletes : call.deletedId? = none) (hcreates : call.isCreation = false) :
    (remote.respond call).2 = remote := by
  cases hfailure : remote.failure? call with
  | some failure => rw [respond_of_failure?_eq_some hfailure]
  | none =>
    rw [respond_of_failure?_eq_none hfailure]
    cases call with
    | deletePolicy => cases hdeletes
    | createPolicy => cases hcreates
    | policyStatus target policyId =>
      rw [perform]
      split <;> rfl
    | versionRecord id =>
      rw [perform]
      split <;> rfl
    | _ => rfl

/-- A call that fails leaves everything as it is. -/
theorem respond_snd_of_error (h : (remote.respond call).1 = .error failure) :
    (remote.respond call).2 = remote := by
  cases hfailure : remote.failure? call with
  | some failure => rw [respond_of_failure?_eq_some hfailure]
  | none =>
    rw [respond_of_failure?_eq_none hfailure] at h
    cases call with
    | deletePolicy => cases h
    | createPolicy => cases h
    | _ => exact respond_snd rfl rfl

/-- Without the failed call at its end, a transcript leads to the same remote side. -/
theorem answered_of_answered_error {front : Transcript}
    (hanswered : Dialogue.Answered respond remote (front ++ [⟨call, .error failure⟩]) final) :
    Dialogue.Answered respond remote front final := by
  obtain ⟨middle, hfront, hlast⟩ := Dialogue.answered_append_iff.mp hanswered
  obtain ⟨hreply, hfinal⟩ := Dialogue.answered_singleton_iff.mp hlast
  rw [respond_snd_of_error hreply.symm] at hfinal
  rwa [hfinal]

theorem answered_of_unchanging {transcript : Transcript}
    (hcalls : ∀ call ∈ transcript.calls, call.deletedId? = none ∧ call.isCreation = false)
    (hanswered : Dialogue.Answered respond remote transcript final) :
    final = remote ∧ ∀ exchange ∈ transcript, exchange.2 = (remote.respond exchange.1).1 := by
  induction transcript with
  | nil => exact ⟨hanswered, List.forall_mem_nil _⟩
  | cons exchange rest ih =>
    obtain ⟨hreply, hrest⟩ := hanswered
    obtain ⟨⟨hdeletes, hcreates⟩, hcalls⟩ := List.forall_mem_cons.mp hcalls
    rw [respond_snd hdeletes hcreates] at hrest
    obtain ⟨hfinal, hreplies⟩ := ih hcalls hrest
    exact ⟨hfinal, List.forall_mem_cons.mpr ⟨hreply, hreplies⟩⟩

theorem answered_of_reading {transcript : Transcript}
    (hcalls : ∀ call ∈ transcript.calls, call.isReading = true)
    (hanswered : Dialogue.Answered respond remote transcript final) :
    final = remote ∧ ∀ exchange ∈ transcript, exchange.2 = (remote.respond exchange.1).1 := by
  refine answered_of_unchanging (fun call hcall => ?_) hanswered
  obtain ⟨hdeletes, -, hcreates⟩ := RemoteCall.eq_none_of_isReading (hcalls call hcall)
  exact ⟨hdeletes, hcreates⟩

/-- A call of a procedure that changes nothing has the reply that it has from the start. -/
theorem mem_transcript_of_unchanging {α : Type} {procedure : Procedure α} {transcript : Transcript}
    {reply : call.Reply}
    (htranscript : transcript = procedure.run.transcript respond remote)
    (hcalls : ∀ call ∈ transcript.calls, call.deletedId? = none ∧ call.isCreation = false)
    (hmem : call ∈ transcript.calls) (hreply : (remote.respond call).1 = reply) :
    ⟨call, reply⟩ ∈ transcript := by
  obtain ⟨⟨_, given⟩, hexchange, rfl⟩ := List.mem_map.mp hmem
  subst htranscript
  obtain ⟨-, hreplies⟩ := answered_of_unchanging hcalls (procedure.run.answered_transcript remote)
  obtain rfl : given = reply := (hreplies _ hexchange).trans hreply
  exact hexchange

end ClusterUpgrade.MemoryRemote
