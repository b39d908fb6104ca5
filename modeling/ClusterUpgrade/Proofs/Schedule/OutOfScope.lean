import ClusterUpgrade.Proofs.Schedule.MemoryPass
import Mathlib.Data.List.Find

/-!
Policies out of scope. Main statement: `reconcile_ignoresOutOfScope`. The pages of a listing depend on
all policies that a remote side in memory holds, what is left of them in scope does not. Behind the
listing every call concerns a policy in scope or none at all, and such calls have the same replies on
two remote sides that agree in scope, keep them in agreement, and move nothing out of scope.
-/

namespace ClusterUpgrade

open Transcript Dialogue

namespace MemoryRemote

/-- The policies that do not bear on a target. -/
def uncovered (target : Target) (remote : MemoryRemote) : List ExistingUpgrade :=
  remote.policies.filter fun upgrade => !target.covers upgrade.policy

/-- Two remote sides that hold the same policies in scope, make the same calls fail, and would make
the same new policy. -/
structure AgreesInScope (target : Target) (first second : MemoryRemote) : Prop where
  covered_eq : first.covered target = second.covered target
  failureRules_eq : first.failureRules = second.failureRules
  clock_eq : first.clock = second.clock
  lastNumber_eq : first.lastNumber = second.lastNumber

end MemoryRemote

/-- A call for a target that names none of the other policies. -/
def RemoteCall.StaysInScope (target : Target) (others : List ExistingUpgrade) : RemoteCall → Prop
  | .policyStatus _ policyId => ∀ upgrade ∈ others, upgrade.id ≠ policyId
  | .deletePolicy _ policyId => ∀ upgrade ∈ others, upgrade.id ≠ policyId
  | .createPolicy created _ => created = target
  | .dryRunPolicy .. => True
  | .agreeToGate .. => True
  | _ => False

variable {target : Target} {remote first second left right final : MemoryRemote}
  {upgrade other : ExistingUpgrade} {transcript : Transcript} {call : RemoteCall}

namespace MemoryRemote

/-! ### Policies -/

theorem covered_removePolicy (policyId : String) :
    (remote.removePolicy policyId).covered target =
      (remote.covered target).filter (·.id != policyId) :=
  List.filter_comm ..

theorem uncovered_removePolicy {policyId : String}
    (hothers : ∀ upgrade ∈ remote.uncovered target, upgrade.id ≠ policyId) :
    (remote.removePolicy policyId).uncovered target = remote.uncovered target := by
  have hcomm : (remote.removePolicy policyId).uncovered target =
      (remote.uncovered target).filter (·.id != policyId) := List.filter_comm ..
  rw [hcomm, List.filter_eq_self]
  intro upgrade hmem
  exact bne_iff_ne.mpr (hothers upgrade hmem)

theorem covered_addPolicy {policy : UpgradePolicy} (hcovers : target.covers policy = true) :
    (remote.addPolicy policy).covered target =
      remote.covered target ++ [{ policy, status := { state := .scheduled } }] := by
  simp [covered, addPolicy, hcovers]

theorem uncovered_addPolicy {policy : UpgradePolicy} (hcovers : target.covers policy = true) :
    (remote.addPolicy policy).uncovered target = remote.uncovered target := by
  simp [uncovered, addPolicy, hcovers]

/-- A policy that is looked up is found in scope, unless its id is one of the others. -/
theorem policy?_eq_find?_covered {policyId : String}
    (hothers : ∀ upgrade ∈ remote.uncovered target, upgrade.id ≠ policyId) :
    remote.policy? policyId = (remote.covered target).find? (·.id == policyId) := by
  rw [policy?, covered, List.find?_filter]
  apply List.find?_congr
  intro upgrade hmem
  by_cases hid : upgrade.id = policyId
  · have hcovers : target.covers upgrade.policy = true := by
      by_contra huncovers
      exact hothers upgrade (List.mem_filter.mpr ⟨hmem, by simp [huncovers]⟩) hid
    simp [hcovers, hid]
  · simp [hid]

theorem id_ne_of_mem_uncovered (hids : (remote.policies.map ExistingUpgrade.id).Nodup)
    (hcovered : upgrade ∈ remote.covered target) :
    ∀ other ∈ remote.uncovered target, other.id ≠ upgrade.id := by
  intro other hother hid
  obtain ⟨hmem, hcovers⟩ := List.mem_filter.mp hcovered
  obtain ⟨hmem', huncovers⟩ := List.mem_filter.mp hother
  obtain rfl := List.inj_on_of_nodup_map hids hmem' hmem hid
  simp [hcovers] at huncovers

/-! ### Calls -/

theorem uncovered_respond (hcall : call.StaysInScope target (remote.uncovered target)) :
    (remote.respond call).2.uncovered target = remote.uncovered target := by
  cases hfailure : remote.failure? call with
  | some failure => rw [respond_of_failure?_eq_some hfailure]
  | none =>
    rw [respond_of_failure?_eq_none hfailure]
    cases call with
    | policyStatus named policyId =>
      rw [perform]
      split <;> rfl
    | deletePolicy named policyId => exact uncovered_removePolicy hcall
    | createPolicy created draft =>
      obtain rfl : created = target := hcall
      exact uncovered_addPolicy covers_newPolicy
    | dryRunPolicy => rfl
    | agreeToGate => rfl
    | _ => cases hcall

theorem failure?_congr (hrules : first.failureRules = second.failureRules) :
    first.failure? call = second.failure? call := by
  rw [failure?, failure?, hrules]

theorem AgreesInScope.respond (h : AgreesInScope target first second)
    (hfirst : call.StaysInScope target (first.uncovered target))
    (hsecond : call.StaysInScope target (second.uncovered target)) :
    (first.respond call).1 = (second.respond call).1 ∧
      AgreesInScope target (first.respond call).2 (second.respond call).2 := by
  have ⟨hcovered, hrules, hclock, hnumber⟩ := h
  have hfails : first.failure? call = second.failure? call := failure?_congr hrules
  cases hfailure : first.failure? call with
  | some failure =>
    rw [respond_of_failure?_eq_some hfailure, respond_of_failure?_eq_some (hfails ▸ hfailure)]
    exact ⟨rfl, h⟩
  | none =>
    rw [respond_of_failure?_eq_none hfailure, respond_of_failure?_eq_none (hfails ▸ hfailure)]
    cases call with
    | policyStatus named policyId =>
      have hfound : first.policy? policyId = second.policy? policyId := by
        rw [policy?_eq_find?_covered hfirst, policy?_eq_find?_covered hsecond, hcovered]
      rw [perform, perform, hfound]
      split
      · exact ⟨rfl, h⟩
      · exact ⟨rfl, h⟩
    | deletePolicy named policyId =>
      refine ⟨rfl, ?_, hrules, hclock, hnumber⟩
      rw [perform, perform, covered_removePolicy, covered_removePolicy, hcovered]
    | createPolicy created draft =>
      obtain rfl : created = target := hfirst
      have hpolicy : first.newPolicy created draft = second.newPolicy created draft := by
        rw [newPolicy, newPolicy, nextId, nextId, hclock, hnumber]
      refine ⟨congrArg Except.ok hpolicy, ?_, hrules, hclock, congrArg (· + 1) hnumber⟩
      rw [perform, perform, covered_addPolicy covers_newPolicy, covered_addPolicy covers_newPolicy,
        hcovered, hpolicy]
    | dryRunPolicy => exact ⟨rfl, h⟩
    | agreeToGate clusterId gateId =>
      rw [perform, perform, hclock]
      exact ⟨rfl, h⟩
    | _ => cases hfirst

theorem uncovered_of_answered
    (hcalls : ∀ call ∈ transcript.calls, call.StaysInScope target (remote.uncovered target))
    (hanswered : Answered MemoryRemote.respond remote transcript final) :
    final.uncovered target = remote.uncovered target := by
  induction transcript generalizing remote with
  | nil => exact congrArg (uncovered target) hanswered
  | cons exchange rest ih =>
    obtain ⟨-, hrest⟩ := hanswered
    obtain ⟨hcall, hcalls⟩ := List.forall_mem_cons.mp hcalls
    have hstep := uncovered_respond hcall
    rw [← hstep] at hcalls
    rw [ih hcalls hrest, hstep]

/-- What the first side has answered in scope, the second side answers just so. -/
theorem AgreesInScope.exists_answered (h : AgreesInScope target first second)
    (hfirst : ∀ call ∈ transcript.calls, call.StaysInScope target (first.uncovered target))
    (hsecond : ∀ call ∈ transcript.calls, call.StaysInScope target (second.uncovered target))
    (hanswered : Answered MemoryRemote.respond first transcript left) :
    ∃ right, Answered MemoryRemote.respond second transcript right ∧
      AgreesInScope target left right := by
  induction transcript generalizing first second with
  | nil =>
    obtain rfl : left = first := hanswered
    exact ⟨second, rfl, h⟩
  | cons exchange rest ih =>
    obtain ⟨hreply, hrest⟩ := hanswered
    obtain ⟨hcall, hfirst⟩ := List.forall_mem_cons.mp hfirst
    obtain ⟨hcall', hsecond⟩ := List.forall_mem_cons.mp hsecond
    obtain ⟨hsame, hagrees⟩ := h.respond hcall hcall'
    rw [← uncovered_respond hcall] at hfirst
    rw [← uncovered_respond hcall'] at hsecond
    obtain ⟨right, hright, hfinal⟩ := ih hagrees hfirst hsecond hrest
    exact ⟨right, ⟨hreply.trans hsame, hright⟩, hfinal⟩

theorem failure?_listPolicies (hlisting : ∀ rule ∈ remote.failureRules, rule.name ≠ "list")
    (page size : Nat) : remote.failure? (.listPolicies target page size) = none := by
  rw [failure?, Option.map_eq_none_iff, List.find?_eq_none]
  intro rule hrule happlies
  exact hlisting rule hrule (beq_iff_eq.mp (Bool.and_eq_true_iff.mp happlies).1)

end MemoryRemote

open MemoryRemote

/-! ### Reading -/

variable {pageSize pageSize' : Nat} {request : UpgradeRequest} {desired : DesiredVersion}
  {now : Instant}

/-- A listing that no rule makes fail leads to the policies in scope; only the calls behind it can
tell one remote side from another. -/
theorem Listing.exists_lookup_of_memory (hremote : remote.IsFaithful)
    (hlisting : ∀ rule ∈ remote.failureRules, rule.name ≠ "list")
    {result : Except UpgradeError (List ExistingUpgrade)}
    (h : (Listing.upgrades target pageSize).Runs transcript result)
    (hanswered : Answered MemoryRemote.respond remote transcript final) :
    ∃ states : Transcript, transcript.calls.filter (!·.isListing) = states.calls ∧
      (Listing.withStatus target ((remote.covered target).map ExistingUpgrade.policy)).Runs states
        result ∧
      Answered MemoryRemote.respond remote states final := by
  cases Listing.reads_of_runs h with
  | unlisted hlist =>
    have hpages : ∀ call ∈ transcript.calls, call.isReading = true := fun call hcall => by
      simp [RemoteCall.isReading, Listing.isListing_of_mem_pages hlist call hcall]
    obtain ⟨-, hreplies⟩ := answered_of_reading hpages hanswered
    obtain ⟨page, -, hfails⟩ := Listing.exists_failure_of_pages hlist hreplies
    exact absurd (failure?_listPolicies hlisting page _) hfails
  | @listed pages states _ hlist hlookup =>
    have hpages : ∀ call ∈ pages.calls, call.isListing = true :=
      Listing.isListing_of_mem_pages hlist
    have hstates : ∀ call ∈ states.calls, call.isListing = false := fun call hcall =>
      RemoteCall.isListing_of_isStatus (Listing.isStatus_of_mem_states hlookup call hcall)
    obtain ⟨middle, hfront, hrest⟩ := answered_append_iff.mp hanswered
    obtain ⟨rfl, hreplies⟩ := answered_of_reading
      (fun call hcall => by simp [RemoteCall.isReading, hpages call hcall]) hfront
    rw [Listing.covered_of_memory (Listing.listed_of_memory hremote hlist hreplies)] at hlookup
    refine ⟨states, ?_, hlookup, hrest⟩
    rw [calls_append, List.filter_append, List.filter_eq_nil_iff.mpr (by simpa using hpages),
      List.filter_eq_self.mpr (by simpa using hstates), List.nil_append]

section Agreement

variable (hfirst : first.IsFaithful) (hsecond : second.IsFaithful)
  (hagrees : AgreesInScope target first second)
  (hlisting : ∀ rule ∈ first.failureRules, rule.name ≠ "list")
include hfirst hsecond hagrees

theorem staysInScope_of_mem_covered (hcovered : upgrade ∈ first.covered target) :
    (∀ other ∈ first.uncovered target, other.id ≠ upgrade.id) ∧
      ∀ other ∈ second.uncovered target, other.id ≠ upgrade.id :=
  ⟨id_ne_of_mem_uncovered hfirst.ids_nodup hcovered,
    id_ne_of_mem_uncovered hsecond.ids_nodup (hagrees.covered_eq ▸ hcovered)⟩

include hlisting

theorem upgrades_alike {transcript' : Transcript}
    {result result' : Except UpgradeError (List ExistingUpgrade)}
    (hread : (Listing.upgrades target pageSize).Runs transcript result)
    (hanswered : Answered MemoryRemote.respond first transcript left)
    (hread' : (Listing.upgrades target pageSize').Runs transcript' result')
    (hanswered' : Answered MemoryRemote.respond second transcript' right) :
    result = result' ∧
      transcript.calls.filter (!·.isListing) = transcript'.calls.filter (!·.isListing) := by
  obtain ⟨states, hcalls, hlookup, hstates⟩ :=
    Listing.exists_lookup_of_memory hfirst hlisting hread hanswered
  obtain ⟨states', hcalls', hlookup', hstates'⟩ :=
    Listing.exists_lookup_of_memory hsecond (hagrees.failureRules_eq ▸ hlisting) hread' hanswered'
  have hscope : ∀ call ∈ states.calls, call.StaysInScope target (first.uncovered target) ∧
      call.StaysInScope target (second.uncovered target) := by
    intro call hcall
    obtain ⟨policy, hpolicy, rfl⟩ :=
      List.mem_map.mp ((Listing.runs_withStatus hlookup).mem_script hcall)
    obtain ⟨upgrade, hcovered, rfl⟩ := List.mem_map.mp hpolicy
    exact staysInScope_of_mem_covered hfirst hsecond hagrees hcovered
  obtain ⟨right', hright', -⟩ := hagrees.exists_answered (fun call hcall => (hscope call hcall).1)
    (fun call hcall => (hscope call hcall).2) hstates
  rw [hagrees.covered_eq] at hlookup
  -- Both lookups are plays of one procedure against the second side.
  obtain ⟨hvalue, hquestions, -⟩ := Procedure.play_of_runs hlookup hright'
  obtain ⟨hvalue', hquestions', -⟩ := Procedure.play_of_runs hlookup' hstates'
  refine ⟨hvalue.symm.trans hvalue', ?_⟩
  rw [hcalls, hcalls']
  exact hquestions.symm.trans hquestions'

theorem previews_alike {transcript' : Transcript} {result result' : Except UpgradeError Plan}
    (h : Previews pageSize target desired now transcript result)
    (hanswered : Answered MemoryRemote.respond first transcript left)
    (h' : Previews pageSize' target desired now transcript' result')
    (hanswered' : Answered MemoryRemote.respond second transcript' right) :
    result = result' ∧
      transcript.calls.filter (!·.isListing) = transcript'.calls.filter (!·.isListing) := by
  cases hversion : Release.supportedVersion desired.rawId with
  | error error =>
    obtain ⟨rfl, rfl⟩ := h.of_unsupported hversion
    obtain ⟨rfl, rfl⟩ := h'.of_unsupported hversion
    exact ⟨rfl, rfl⟩
  | ok version =>
    obtain ⟨read, hread, rfl⟩ := h.exists_read hversion
    obtain ⟨read', hread', rfl⟩ := h'.exists_read hversion
    obtain ⟨rfl, hcalls⟩ :=
      upgrades_alike hfirst hsecond hagrees hlisting hread hanswered hread' hanswered'
    exact ⟨rfl, hcalls⟩

end Agreement

/-! ### Passes -/

/-- Two procedures, each played against a remote side of its own, have the same result and make the
same calls besides listings; both sides agree in scope afterwards, and nothing else has changed. -/
structure PlaysAlikeInScope {α : Type} (target : Target) (first second : MemoryRemote)
    (procedure procedure' : Procedure α) : Prop where
  value_eq : (procedure.run.play MemoryRemote.respond first).1.value =
    (procedure'.run.play MemoryRemote.respond second).1.value
  calls_eq : (procedure.run.play MemoryRemote.respond first).1.questions.filter (!·.isListing) =
    (procedure'.run.play MemoryRemote.respond second).1.questions.filter (!·.isListing)
  covered_eq : (procedure.run.play MemoryRemote.respond first).2.covered target =
    (procedure'.run.play MemoryRemote.respond second).2.covered target
  uncovered_first : (procedure.run.play MemoryRemote.respond first).2.uncovered target =
    first.uncovered target
  uncovered_second : (procedure'.run.play MemoryRemote.respond second).2.uncovered target =
    second.uncovered target

theorem PlaysAlikeInScope.of_runs {α : Type} {procedure procedure' : Procedure α}
    {result : Except UpgradeError α} {transcript' : Transcript}
    (hruns : procedure.Runs transcript result)
    (hanswered : Answered MemoryRemote.respond first transcript left)
    (hruns' : procedure'.Runs transcript' result)
    (hanswered' : Answered MemoryRemote.respond second transcript' right)
    (hcalls : transcript.calls.filter (!·.isListing) = transcript'.calls.filter (!·.isListing))
    (hcovered : left.covered target = right.covered target)
    (hleft : left.uncovered target = first.uncovered target)
    (hright : right.uncovered target = second.uncovered target) :
    PlaysAlikeInScope target first second procedure procedure' := by
  obtain ⟨hvalue, hquestions, rfl⟩ := Procedure.play_of_runs hruns hanswered
  obtain ⟨hvalue', hquestions', rfl⟩ := Procedure.play_of_runs hruns' hanswered'
  refine ⟨hvalue.trans hvalue'.symm, ?_, hcovered, hleft, hright⟩
  rw [hquestions, hquestions']
  exact hcalls

theorem PlaysAlikeInScope.exists_runs {α : Type} {procedure procedure' : Procedure α}
    (h : PlaysAlikeInScope target first second procedure procedure') :
    let play := procedure.run.play MemoryRemote.respond first
    let play' := procedure'.run.play MemoryRemote.respond second
    ∃ transcript transcript' : Transcript,
      procedure.Runs transcript play.1.value ∧ procedure'.Runs transcript' play.1.value ∧
        transcript.calls.filter (!·.isListing) = transcript'.calls.filter (!·.isListing) ∧
        Answered MemoryRemote.respond first transcript play.2 ∧
        Answered MemoryRemote.respond second transcript' play'.2 := by
  intro play play'
  obtain ⟨transcript, hruns, hcalls, hanswered⟩ :=
    Procedure.exists_runs MemoryRemote.respond procedure first
  obtain ⟨transcript', hruns', hcalls', hanswered'⟩ :=
    Procedure.exists_runs MemoryRemote.respond procedure' second
  rw [← h.value_eq] at hruns'
  refine ⟨transcript, transcript', hruns, hruns', ?_, hanswered, hanswered'⟩
  rw [Transcript.calls, Transcript.calls, hcalls, hcalls']
  exact h.calls_eq

theorem PlaysAlikeInScope.bind {α β : Type} {procedure procedure' : Procedure α}
    {next : α → Procedure β} (h : PlaysAlikeInScope target first second procedure procedure')
    (hnext : ∀ value, (procedure.run.play MemoryRemote.respond first).1.value = .ok value →
      PlaysAlikeInScope target (procedure.run.play MemoryRemote.respond first).2
        (procedure'.run.play MemoryRemote.respond second).2 (next value) (next value)) :
    PlaysAlikeInScope target first second (procedure >>= next) (procedure' >>= next) := by
  obtain ⟨front, front', hfront, hfront', hcalls, hanswered, hanswered'⟩ := h.exists_runs
  cases hvalue : (procedure.run.play MemoryRemote.respond first).1.value with
  | error error =>
    rw [hvalue] at hfront hfront'
    exact .of_runs (Procedure.runs_bind_iff.mpr (.inl ⟨error, hfront, rfl⟩)) hanswered
      (Procedure.runs_bind_iff.mpr (.inl ⟨error, hfront', rfl⟩)) hanswered' hcalls h.covered_eq
      h.uncovered_first h.uncovered_second
  | ok value =>
    rw [hvalue] at hfront hfront'
    have hafter := hnext value hvalue
    obtain ⟨rest, rest', hrest, hrest', hothers, hanswers, hanswers'⟩ := hafter.exists_runs
    refine .of_runs
      (Procedure.runs_bind_iff.mpr (.inr ⟨front, rest, value, rfl, hfront, hrest⟩))
      (answered_append_iff.mpr ⟨_, hanswered, hanswers⟩)
      (Procedure.runs_bind_iff.mpr (.inr ⟨front', rest', value, rfl, hfront', hrest'⟩))
      (answered_append_iff.mpr ⟨_, hanswered', hanswers'⟩) ?_ hafter.covered_eq
      (hafter.uncovered_first.trans h.uncovered_first)
      (hafter.uncovered_second.trans h.uncovered_second)
    rw [calls_append, calls_append, List.filter_append, List.filter_append, hcalls, hothers]

theorem staysInScope_of_mem_changingCalls {gates : List VersionGate} {plan : Plan}
    {others : List ExistingUpgrade}
    (hcancel : ∀ upgrade ∈ plan.cancel, ∀ other ∈ others, other.id ≠ upgrade.id)
    (hcall : call ∈ changingCalls request gates plan) :
    call.StaysInScope request.target others := by
  rcases List.mem_append.mp hcall with hdeletion | hrest
  · rw [deletionCalls, List.map_map] at hdeletion
    obtain ⟨upgrade, hcancelled, rfl⟩ := List.mem_map.mp hdeletion
    exact hcancel upgrade hcancelled
  · split at hrest
    · cases hrest
    rcases List.mem_append.mp hrest with hgate | hcreation
    · rcases List.mem_cons.mp hgate with rfl | hagreement
      · trivial
      · obtain ⟨gate, -, rfl⟩ := List.mem_map.mp hagreement
        trivial
    · obtain rfl := List.mem_singleton.mp hcreation
      exact rfl

theorem play_previewPlan_snd :
    ((previewPlan pageSize target desired now).run.play MemoryRemote.respond remote).2 = remote := by
  obtain ⟨transcript, hruns, -, hanswered⟩ := Procedure.exists_runs MemoryRemote.respond
    (previewPlan pageSize target desired now) remote
  exact (previews_of_runs hruns).unchanged hanswered

section Agreement

variable (hfirst : first.IsFaithful) (hsecond : second.IsFaithful)
  (hagrees : AgreesInScope request.target first second)
  (hlisting : ∀ rule ∈ first.failureRules, rule.name ≠ "list")
include hfirst hsecond hagrees

/-- A plan that cancels policies in scope only is carried out alike. -/
theorem carryOut_alike {plan : Plan}
    (hplan : ∀ upgrade ∈ plan.cancel, upgrade ∈ first.covered request.target) :
    PlaysAlikeInScope request.target first second (carryOut request plan)
      (carryOut request plan) := by
  obtain ⟨transcript, hruns, -, hanswered⟩ :=
    Procedure.exists_runs MemoryRemote.respond (carryOut request plan) first
  have hscope : ∀ upgrade ∈ plan.cancel,
      (∀ other ∈ first.uncovered request.target, other.id ≠ upgrade.id) ∧
        ∀ other ∈ second.uncovered request.target, other.id ≠ upgrade.id := fun upgrade hmem =>
    staysInScope_of_mem_covered hfirst hsecond hagrees (hplan upgrade hmem)
  have hcalls : ∀ call ∈ transcript.calls,
      call.StaysInScope request.target (first.uncovered request.target) := fun call hcall =>
    staysInScope_of_mem_changingCalls (fun upgrade hmem => (hscope upgrade hmem).1)
      ((changes_of_runs hruns).calls_start.subset hcall)
  have hcalls' : ∀ call ∈ transcript.calls,
      call.StaysInScope request.target (second.uncovered request.target) := fun call hcall =>
    staysInScope_of_mem_changingCalls (fun upgrade hmem => (hscope upgrade hmem).2)
      ((changes_of_runs hruns).calls_start.subset hcall)
  obtain ⟨right, hright, hafter⟩ := hagrees.exists_answered hcalls hcalls' hanswered
  exact .of_runs hruns hanswered hruns hright rfl hafter.covered_eq
    (uncovered_of_answered hcalls hanswered) (uncovered_of_answered hcalls' hright)

include hlisting

theorem previewPlan_alike : PlaysAlikeInScope request.target first second
    (previewPlan pageSize request.target request.desired now)
    (previewPlan pageSize' request.target request.desired now) := by
  obtain ⟨transcript, hruns, -, hanswered⟩ := Procedure.exists_runs MemoryRemote.respond
    (previewPlan pageSize request.target request.desired now) first
  obtain ⟨transcript', hruns', -, hanswered'⟩ := Procedure.exists_runs MemoryRemote.respond
    (previewPlan pageSize' request.target request.desired now) second
  obtain ⟨hresult, hcalls⟩ := previews_alike hfirst hsecond hagrees hlisting
    (previews_of_runs hruns) hanswered (previews_of_runs hruns') hanswered'
  rw [← hresult] at hruns'
  rw [play_previewPlan_snd] at hanswered hanswered'
  exact .of_runs hruns hanswered hruns' hanswered' hcalls hagrees.covered_eq rfl rfl

theorem reconcile_alike : PlaysAlikeInScope request.target first second
    (reconcile pageSize request now) (reconcile pageSize' request now) := by
  have hpass : PlaysAlikeInScope request.target first second
      (previewPlan pageSize request.target request.desired now >>= carryOut request)
      (previewPlan pageSize' request.target request.desired now >>= carryOut request) := by
    apply (previewPlan_alike hfirst hsecond hagrees hlisting).bind
    intro plan hplan
    obtain ⟨transcript, hruns, -, hanswered⟩ := Procedure.runs_of_play hplan
    obtain ⟨-, -, rfl⟩ := previews_of_memory hfirst (previews_of_runs hruns) hanswered
    rw [play_previewPlan_snd, play_previewPlan_snd]
    exact carryOut_alike hfirst hsecond hagrees fun upgrade hcancelled =>
      (List.mem_filter.mp hcancelled).1
  obtain ⟨transcript, transcript', hruns, hruns', hcalls, hanswered, hanswered'⟩ :=
    hpass.exists_runs
  exact .of_runs (runs_reconcile_iff.mpr hruns) hanswered (runs_reconcile_iff.mpr hruns') hanswered'
    hcalls hpass.covered_eq hpass.uncovered_first hpass.uncovered_second

/-- **Policies out of scope have no influence.** Whatever they are and wherever they stand, and
however either side pages its listing. -/
theorem reconcile_ignoresOutOfScope (pageSize pageSize' : Nat) (now : Instant) :
    PlaysAlikeInScope request.target first second
        (reconcile pageSize request now) (reconcile pageSize' request now) ∧
      PlaysAlikeInScope request.target first second
        (previewPlan pageSize request.target request.desired now)
        (previewPlan pageSize' request.target request.desired now) :=
  ⟨reconcile_alike hfirst hsecond hagrees hlisting,
    previewPlan_alike hfirst hsecond hagrees hlisting⟩

end Agreement

/-- A policy of a node pool before the one in scope fills the only page that the first side lists at
a time; the second side lists it behind two others, of which one names the same version. -/
theorem alike_beside_node_pools :
    let policy : UpgradePolicy := { id := "7", version := "4.14.2", kind := .platform }
    let waiting : PolicyStatus := { state := .scheduled }
    let others (id version : String) : ExistingUpgrade :=
      { policy := { id, version, nodePoolId := some "workers", kind := .nodePool }
        status := { state := .started } }
    let first : MemoryRemote :=
      { policies := [others "1" "4.13.9", { policy, status := waiting }], pageCap := some 1 }
    let second : MemoryRemote :=
      { policies := [{ policy, status := waiting }, others "5" "4.14.2", others "6" "4.15.0"] }
    let version : Version := { major := 4, minor := 14, patch := 2, preRelease := [] }
    let request : UpgradeRequest :=
      { target := .cluster "alpha"
        desired := { rawId := "4.14.2", version, channelGroup := none } }
    PlaysAlikeInScope request.target first second
        (reconcile 100 request .epoch) (reconcile 100 request .epoch) ∧
      PlaysAlikeInScope request.target first second
        (previewPlan 100 request.target request.desired .epoch)
        (previewPlan 100 request.target request.desired .epoch) := by
  intro policy waiting others first second version request
  have hfirst : first.IsFaithful :=
    { cap_pos := fun cap hcap => by cases hcap; decide
      tellsTotal := ⟨rfl, by decide⟩
      ids_nodup := by decide }
  have hsecond : second.IsFaithful :=
    { cap_pos := fun cap hcap => by cases hcap
      tellsTotal := ⟨rfl, by decide⟩
      ids_nodup := by decide }
  have hagrees : MemoryRemote.AgreesInScope request.target first second :=
    { covered_eq := by decide
      failureRules_eq := rfl
      clock_eq := rfl
      lastNumber_eq := rfl }
  exact reconcile_ignoresOutOfScope hfirst hsecond hagrees (fun rule hrule => nomatch hrule) 100 100
    .epoch

end ClusterUpgrade
