import ClusterUpgrade.Dialogue
import ClusterUpgrade.Error
import ClusterUpgrade.Policy
import ClusterUpgrade.VersionRecord

/-!
The calls that the remote side answers, and the dialogues that are made of them.
-/

namespace ClusterUpgrade

inductive RemoteCall where
  /-- One page of the policies of a target, counted from one. -/
  | listPolicies (target : Target) (page size : Nat)
  | policyStatus (target : Target) (policyId : String)
  | deletePolicy (target : Target) (policyId : String)
  | createPolicy (target : Target) (draft : PolicyDraft)
  /-- Checks whether a policy could be created, without creating it. -/
  | dryRunPolicy (target : Target) (draft : PolicyDraft)
  | agreeToGate (clusterId gateId : String)
  | versionRecord (id : String)
  | currentVersion (target : Target)
  deriving Repr, DecidableEq

namespace RemoteCall

/-- What a successful call answers. -/
abbrev Answer : RemoteCall → Type
  | .listPolicies .. => PolicyPage
  | .policyStatus .. => PolicyStatus
  | .deletePolicy .. => Unit
  | .createPolicy .. => UpgradePolicy
  | .dryRunPolicy .. => UpgradePolicy
  | .agreeToGate .. => GateAgreement
  | .versionRecord _ => VersionRecord
  | .currentVersion _ => String

/-- What a call brings back, the failure included. -/
abbrev Reply (call : RemoteCall) : Type := Except RemoteFailure call.Answer

/-- Whether a call leaves the remote side as it is. -/
def isReadOnly : RemoteCall → Bool
  | .deletePolicy .. | .createPolicy .. | .agreeToGate .. => false
  | _ => true

end RemoteCall

/-- A dialogue with the remote side. -/
abbrev RemoteDialogue := Dialogue RemoteCall RemoteCall.Reply

/-- A dialogue with the remote side that may end with an error. -/
abbrev Procedure := ExceptT UpgradeError RemoteDialogue

namespace Procedure

/-- Makes a call; a failure ends the procedure with the operation and the subject it concerned. -/
def call (operation subject : String) (remoteCall : RemoteCall) : Procedure remoteCall.Answer :=
  ExceptT.mk <| (Dialogue.question remoteCall : RemoteDialogue _).bind fun reply =>
    .done (reply.mapError (.remote operation subject))

/-- Makes a call and ends with its reply, whether it failed or not. -/
def attempt (remoteCall : RemoteCall) : Procedure remoteCall.Reply :=
  ExceptT.lift (Dialogue.question remoteCall)

def log (level : LogLevel) (source : LogSource) (message : String) : Procedure Unit :=
  ExceptT.lift (Dialogue.log level source message)

def logAll (events : List LogEvent) : Procedure Unit :=
  ExceptT.lift (Dialogue.logAll events)

def output (text : String) : Procedure Unit := ExceptT.lift (Dialogue.output text)

/-- Ends with the value of a computation that makes no calls, or with its error. -/
def ofExcept {α : Type} (result : Except UpgradeError α) : Procedure α := ExceptT.mk (.done result)

end Procedure

end ClusterUpgrade
