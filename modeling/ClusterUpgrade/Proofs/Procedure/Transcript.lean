import ClusterUpgrade.Proofs.Procedure.Runs
import ClusterUpgrade.Schedule.GateCheck

/-!
What a transcript of remote calls tells: the calls, the policies and states that were read, the gates
that a dry run reported, and how a failed call breaks a run off.
-/

namespace ClusterUpgrade

namespace RemoteCall

def isListing : RemoteCall → Bool
  | .listPolicies .. => true
  | _ => false

def isStatus : RemoteCall → Bool
  | .policyStatus .. => true
  | _ => false

/-- A call by which the existing policies are read. -/
def isReading (call : RemoteCall) : Bool := call.isListing || call.isStatus

def isDryRun : RemoteCall → Bool
  | .dryRunPolicy .. => true
  | _ => false

def isCreation : RemoteCall → Bool
  | .createPolicy .. => true
  | _ => false

def deletedId? : RemoteCall → Option String
  | .deletePolicy _ policyId => some policyId
  | _ => none

def agreedGateId? : RemoteCall → Option String
  | .agreeToGate _ gateId => some gateId
  | _ => none

theorem isListing_of_isStatus {call : RemoteCall} (h : call.isStatus = true) :
    call.isListing = false := by
  cases call with
  | listPolicies => exact absurd h (by simp [isStatus])
  | _ => rfl

theorem isStatus_of_isListing {call : RemoteCall} (h : call.isListing = true) :
    call.isStatus = false := by
  cases call with
  | policyStatus => exact absurd h (by simp [isListing])
  | _ => rfl

theorem isDryRun_of_isReading {call : RemoteCall} (h : call.isReading = true) :
    call.isDryRun = false := by
  cases call with
  | dryRunPolicy => exact absurd h (by simp [isReading, isListing, isStatus])
  | _ => rfl

theorem eq_none_of_isReading {call : RemoteCall} (h : call.isReading = true) :
    call.deletedId? = none ∧ call.agreedGateId? = none ∧ call.isCreation = false := by
  cases call with
  | deletePolicy => exact absurd h (by simp [isReading, isListing, isStatus])
  | agreeToGate => exact absurd h (by simp [isReading, isListing, isStatus])
  | createPolicy => exact absurd h (by simp [isReading, isListing, isStatus])
  | _ => exact ⟨rfl, rfl, rfl⟩

/-- How errors name what a call was made for. -/
def operation : RemoteCall → String
  | .listPolicies .. => "list upgrade policies"
  | .policyStatus _ policyId => "get state of upgrade policy '" ++ policyId ++ "'"
  | .deletePolicy _ policyId => "delete upgrade policy '" ++ policyId ++ "'"
  | .createPolicy .. => "create upgrade policy"
  | .dryRunPolicy .. => "check missing gate agreements"
  | .agreeToGate _ gateId => "acknowledge version gate '" ++ gateId ++ "'"
  | .versionRecord _ => "get version"
  | .currentVersion _ => "get current version"

end RemoteCall

/-- The gates that a refused dry run reports, if its failure carries a usable list. -/
def RemoteFailure.gates? : RemoteFailure → Option (List VersionGate)
  | .api error => (GateDetails.ofError error).gates?
  | _ => none

namespace RemoteExchange

def listed : RemoteExchange → List UpgradePolicy
  | ⟨.listPolicies .., .ok page⟩ => page.items
  | _ => []

def status? : RemoteExchange → Option PolicyStatus
  | ⟨.policyStatus .., .ok status⟩ => some status
  | _ => none

def reportedGates? : RemoteExchange → Option (List VersionGate)
  | ⟨.dryRunPolicy .., .error failure⟩ => failure.gates?
  | _ => none

/-- The call succeeded, or it was a dry run refused with a usable list of gates. -/
def Settled (exchange : RemoteExchange) : Prop :=
  (∃ answer, exchange.2 = .ok answer) ∨ exchange.reportedGates? ≠ none

theorem ok_of_settled {exchange : RemoteExchange} (h : exchange.Settled)
    (hdryRun : exchange.1.isDryRun = false) : ∃ answer, exchange.2 = .ok answer := by
  apply h.resolve_right
  intro hreported
  obtain ⟨call, reply⟩ := exchange
  cases call with
  | dryRunPolicy => cases hdryRun
  | _ => exact hreported rfl

theorem not_settled_of_error {call : RemoteCall} {failure : RemoteFailure}
    (hgates : call.isDryRun = true → failure.gates? = none) :
    ¬RemoteExchange.Settled ⟨call, .error failure⟩ := by
  rintro (⟨answer, hanswer⟩ | hreported)
  · cases hanswer
  · cases call with
    | dryRunPolicy => exact hreported (hgates rfl)
    | _ => exact hreported rfl

end RemoteExchange

namespace Transcript

def calls (transcript : Transcript) : List RemoteCall := transcript.map Sigma.fst

def pageCount (transcript : Transcript) : Nat := transcript.calls.countP RemoteCall.isListing

def listed (transcript : Transcript) : List UpgradePolicy :=
  transcript.flatMap RemoteExchange.listed

/-- The listed policies that bear on a target. -/
def covered (target : Target) (transcript : Transcript) : List UpgradePolicy :=
  transcript.listed.filter target.covers

def statuses (transcript : Transcript) : List PolicyStatus :=
  transcript.filterMap RemoteExchange.status?

/-- The policies that bear on a target, each with the state that was fetched for it. -/
def observed (target : Target) (transcript : Transcript) : List ExistingUpgrade :=
  List.zipWith ExistingUpgrade.mk (transcript.covered target) transcript.statuses

def reportedGates (transcript : Transcript) : List VersionGate :=
  transcript.flatMap fun exchange => exchange.reportedGates?.getD []

/-- No call of the transcript breaks a run off. -/
def Settled (transcript : Transcript) : Prop := ∀ exchange ∈ transcript, exchange.Settled

/-- The last call of the transcript failed, which is the error; all calls before it are settled. -/
def BreaksOff (target : Target) (transcript : Transcript) (error : UpgradeError) : Prop :=
  ∃ (front : Transcript) (call : RemoteCall) (failure : RemoteFailure),
    transcript = front ++ [⟨call, .error failure⟩] ∧ front.Settled ∧
      error = .remote call.operation target.text failure

variable {first second transcript : Transcript} {exchange : RemoteExchange} {target : Target}
  {error : UpgradeError}

@[simp]
theorem calls_nil : calls [] = [] := rfl

@[simp]
theorem calls_cons : calls (exchange :: transcript) = exchange.1 :: transcript.calls := rfl

@[simp]
theorem calls_append : calls (first ++ second) = first.calls ++ second.calls := List.map_append

@[simp]
theorem length_calls : transcript.calls.length = transcript.length := List.length_map ..

@[simp]
theorem pageCount_append : pageCount (first ++ second) = first.pageCount + second.pageCount := by
  simp [pageCount]

@[simp]
theorem listed_nil : listed [] = [] := rfl

@[simp]
theorem listed_cons :
    listed (exchange :: transcript) = exchange.listed ++ transcript.listed := List.flatMap_cons

@[simp]
theorem listed_append : listed (first ++ second) = first.listed ++ second.listed :=
  List.flatMap_append

@[simp]
theorem statuses_append : statuses (first ++ second) = first.statuses ++ second.statuses :=
  List.filterMap_append

@[simp]
theorem reportedGates_cons :
    reportedGates (exchange :: transcript) =
      exchange.reportedGates?.getD [] ++ transcript.reportedGates :=
  List.flatMap_cons

@[simp]
theorem reportedGates_append :
    reportedGates (first ++ second) = first.reportedGates ++ second.reportedGates :=
  List.flatMap_append

/-! ### Transcripts without calls of a kind -/

theorem pageCount_eq_zero (h : ∀ call ∈ transcript.calls, call.isListing = false) :
    transcript.pageCount = 0 :=
  List.countP_eq_zero.mpr fun call hcall => by simp [h call hcall]

theorem pageCount_eq_length (h : ∀ call ∈ transcript.calls, call.isListing = true) :
    transcript.pageCount = transcript.length :=
  (List.countP_eq_length.mpr h).trans length_calls

theorem listed_eq_nil (h : ∀ call ∈ transcript.calls, call.isListing = false) :
    transcript.listed = [] := by
  apply List.flatMap_eq_nil_iff.mpr
  intro exchange hmem
  have hcall := h exchange.1 (List.mem_map_of_mem hmem)
  rcases exchange with ⟨call, reply⟩
  cases call with
  | listPolicies => exact absurd hcall (by simp [RemoteCall.isListing])
  | _ => rfl

theorem statuses_eq_nil (h : ∀ call ∈ transcript.calls, call.isStatus = false) :
    transcript.statuses = [] := by
  apply List.filterMap_eq_nil_iff.mpr
  intro exchange hmem
  have hcall := h exchange.1 (List.mem_map_of_mem hmem)
  rcases exchange with ⟨call, reply⟩
  cases call with
  | policyStatus => exact absurd hcall (by simp [RemoteCall.isStatus])
  | _ => rfl

theorem reportedGates_eq_nil (h : ∀ call ∈ transcript.calls, call.isDryRun = false) :
    transcript.reportedGates = [] := by
  apply List.flatMap_eq_nil_iff.mpr
  intro exchange hmem
  have hcall := h exchange.1 (List.mem_map_of_mem hmem)
  rcases exchange with ⟨call, reply⟩
  cases call with
  | dryRunPolicy => exact absurd hcall (by simp [RemoteCall.isDryRun])
  | _ => rfl

/-! ### Settled and broken-off transcripts -/

theorem settled_nil : Settled [] := fun _ hmem => absurd hmem List.not_mem_nil

@[simp]
theorem settled_cons_iff :
    Settled (exchange :: transcript) ↔ exchange.Settled ∧ transcript.Settled :=
  List.forall_mem_cons

@[simp]
theorem settled_append_iff : Settled (first ++ second) ↔ first.Settled ∧ second.Settled :=
  List.forall_mem_append

theorem BreaksOff.append (hfirst : first.Settled) (hsecond : second.BreaksOff target error) :
    BreaksOff target (first ++ second) error := by
  obtain ⟨front, call, failure, rfl, hfront, rfl⟩ := hsecond
  refine ⟨first ++ front, call, failure, (List.append_assoc ..).symm, ?_, rfl⟩
  exact settled_append_iff.mpr ⟨hfirst, hfront⟩

theorem BreaksOff.not_settled (h : BreaksOff target transcript error)
    (hcalls : ∀ call ∈ transcript.calls, call.isDryRun = false) : ¬transcript.Settled := by
  obtain ⟨front, call, failure, rfl, -, -⟩ := h
  intro hsettled
  have hlast := hsettled ⟨call, .error failure⟩ (List.mem_append_right front List.mem_cons_self)
  obtain ⟨answer, hanswer⟩ := RemoteExchange.ok_of_settled hlast (hcalls call (by simp))
  cases hanswer

/-- Only the last call of a broken-off transcript can be one that is not settled. -/
theorem BreaksOff.eq_nil_of_not_settled {rest : Transcript} {failure : RemoteFailure}
    (h : BreaksOff target (first ++ exchange :: rest) error) (hfailure : exchange.2 = .error failure)
    (hexchange : ¬exchange.Settled) :
    rest = [] ∧ error = .remote exchange.1.operation target.text failure := by
  obtain ⟨front, call, lastFailure, heq, hfront, rfl⟩ := h
  rcases List.eq_nil_or_concat rest with rfl | ⟨more, last, rfl⟩
  · obtain ⟨-, hlast⟩ := List.append_inj' heq rfl
    obtain rfl := List.singleton_injective hlast
    cases hfailure
    exact ⟨rfl, rfl⟩
  · rw [List.concat_eq_append, ← List.cons_append, ← List.append_assoc] at heq
    obtain ⟨rfl, -⟩ := List.append_inj' heq rfl
    exact absurd (hfront exchange (by simp)) hexchange

end Transcript

end ClusterUpgrade
