import ClusterUpgrade.Schedule.GateCheck
import ClusterUpgrade.Schedule.Listing
import ClusterUpgrade.Schedule.Plan

/-!
Bringing a target to exactly one scheduled upgrade to the desired version. A pass reads and judges
all existing policies, cancels those that have to go, and schedules a new one only if none was kept
and every gate that needs consent is covered by it.
-/

namespace ClusterUpgrade

/-- What a pass is asked to do. -/
structure UpgradeRequest where
  target : Target
  desired : DesiredVersion
  /-- The token by which the operator consents to version gates. -/
  consent : Option String := none
  deriving Repr, DecidableEq, Inhabited

inductive ReconcileOutcome where
  | alreadyScheduled (kept : List ExistingUpgrade) (cancelled : List String)
  | scheduled (policy : UpgradePolicy) (cancelled acknowledged : List String)
  deriving Repr, DecidableEq, Inhabited

/-- Reads the existing policies and judges them, without changing anything. -/
def previewPlan (pageSize : Nat) (target : Target) (desired : DesiredVersion) (now : Instant) :
    Procedure Plan := do
  let _ ← Procedure.ofExcept (Release.supportedVersion desired.rawId)
  let upgrades ← Listing.upgrades target pageSize
  Procedure.logAll (remarks target desired (now.addMinutes scheduleWindow) upgrades)
  let plan ← Procedure.ofExcept (classify target upgrades desired now)
  Procedure.log .debug .coordinator
    ("Plan for " ++ target.text ++ " to " ++ desired.rawId ++ ": "
      ++ Text.natText plan.keep.length ++ " kept, " ++ Text.natText plan.cancel.length
      ++ " to cancel, " ++ Text.natText plan.ignored ++ " ignored")
  return plan

/-- Cancels one policy by removing it. -/
def cancelPolicy (target : Target) (policy : UpgradePolicy) : Procedure Unit := do
  Procedure.call ("delete upgrade policy '" ++ policy.id ++ "'") target.text
    (.deletePolicy target policy.id)
  Procedure.log .info .mutator
    ("Cancelled upgrade policy " ++ policy.id ++ " to " ++ policy.version ++ " for " ++ target.text)

/-- Cancels policies one after the other; the ids of those cancelled, in order. -/
def cancelAll (target : Target) : List ExistingUpgrade → Procedure (List String)
  | [] => return []
  | upgrade :: rest => do
    cancelPolicy target upgrade.policy
    let others ← cancelAll target rest
    return upgrade.id :: others

/-- Schedules a manual upgrade to the desired version. -/
def schedulePolicy (target : Target) (desired : DesiredVersion) : Procedure UpgradePolicy := do
  let policy ← Procedure.call "create upgrade policy" target.text
    (.createPolicy target (.manual desired.rawId))
  Procedure.log .info .mutator
    ("Scheduled upgrade of " ++ target.text ++ " to " ++ desired.rawId ++ " (policy " ++ policy.id
      ++ ", next run " ++ policy.nextRun.elim "unscheduled" Instant.textWithOffset ++ ")")
  return policy

/-- Agrees to every gate that needs consent, if the consent that was given covers all of them. -/
def resolveGates (request : UpgradeRequest) : Procedure (List String) := do
  let target := request.target
  let desired := request.desired
  match ← GateCheck.run target desired with
  | .clear => return []
  | .missing gates =>
    let outstanding := VersionGate.outstanding gates
    if outstanding.isEmpty then
      Procedure.log .debug .coordinator
        ("Only automatic gates pending for " ++ target.text ++ " to " ++ desired.rawId)
      return []
    else if consentCovers request.consent desired.gatePrefix outstanding then
      GateCheck.acknowledgeAll target outstanding
    else
      throw (.consentRequired target desired.rawId
        { gates := outstanding, token := request.consent, common := desired.gatePrefix })

/-- One pass over a target. -/
def reconcile (pageSize : Nat) (request : UpgradeRequest) (now : Instant) :
    Procedure ReconcileOutcome := do
  let target := request.target
  let desired := request.desired
  Procedure.log .info .coordinator
    ("Reconciling upgrade policies of " ++ target.text ++ " to " ++ desired.rawId)
  let plan ← previewPlan pageSize target desired now
  let cancelled ← cancelAll target plan.cancel
  if plan.isSatisfied then
    Procedure.log .info .coordinator
      ("Upgrade of " ++ target.text ++ " to " ++ desired.rawId ++ " is already scheduled")
    return .alreadyScheduled plan.keep cancelled
  else
    let acknowledged ← resolveGates request
    let policy ← schedulePolicy target desired
    return .scheduled policy cancelled acknowledged

/-- Describes the gates that need consent, `none` if there are none; agrees to nothing. -/
def explainGates (target : Target) (desired : DesiredVersion) : Procedure (Option String) := do
  let _ ← Procedure.ofExcept (Release.supportedVersion desired.rawId)
  match ← GateCheck.run target desired with
  | .clear => return none
  | .missing gates =>
    let outstanding := VersionGate.outstanding gates
    return if outstanding.isEmpty then none else some (VersionGate.describe outstanding)

end ClusterUpgrade
