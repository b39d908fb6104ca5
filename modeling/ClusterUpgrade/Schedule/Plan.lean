import ClusterUpgrade.Log.Event
import ClusterUpgrade.Policy
import ClusterUpgrade.Time.Rfc3339
import ClusterUpgrade.Version.Desired

/-!
What is to become of the existing policies of a target. Every policy is judged before anything is
changed: it is kept, it is cancelled, it is ignored, or it forbids the whole plan.
-/

namespace ClusterUpgrade

/-- A waiting policy that runs within this many minutes is left alone if it fits. -/
def scheduleWindow : Nat := 10

inductive Verdict where
  | keep
  | cancel
  | ignore
  deriving Repr, DecidableEq, Inhabited

structure Plan where
  /-- Policies that already bring the desired version. -/
  keep : List ExistingUpgrade := []
  /-- Waiting policies that have to go. -/
  cancel : List ExistingUpgrade := []
  /-- How many policies carry no obligation. -/
  ignored : Nat := 0
  deriving Repr, DecidableEq, Inhabited

namespace Plan

def isSatisfied (plan : Plan) : Bool := !plan.keep.isEmpty

/-- The plan with one more policy in front. -/
def add (upgrade : ExistingUpgrade) (plan : Plan) : Verdict → Plan
  | .keep => { plan with keep := upgrade :: plan.keep }
  | .cancel => { plan with cancel := upgrade :: plan.cancel }
  | .ignore => { plan with ignored := plan.ignored + 1 }

end Plan

/-- Whether a policy runs before an instant. -/
def ExistingUpgrade.isDueBefore (deadline : Instant) (upgrade : ExistingUpgrade) : Bool :=
  upgrade.nextRun.any (·.isBefore deadline)

/-- The verdict on one policy. An executing policy for another version forbids every plan; a waiting
policy is kept only if it is due before the deadline and brings the desired version. -/
def judge (target : Target) (desired : DesiredVersion) (deadline : Instant)
    (upgrade : ExistingUpgrade) : Except UpgradeError Verdict :=
  if upgrade.state.isExecuting then do
    if ← desired.isNamedBy upgrade.version then return .keep
    else throw (.conflict target desired.rawId upgrade.version)
  else if upgrade.state.isWaiting then
    if upgrade.isDueBefore deadline then do
      return if ← desired.isNamedBy upgrade.version then .keep else .cancel
    else return .cancel
  else return .ignore

/-- Judges the policies in order; the first one that forbids the plan decides the error. -/
def planBefore (target : Target) (desired : DesiredVersion) (deadline : Instant) :
    List ExistingUpgrade → Except UpgradeError Plan
  | [] => return {}
  | upgrade :: rest => do
    let verdict ← judge target desired deadline upgrade
    let plan ← planBefore target desired deadline rest
    return plan.add upgrade verdict

/-- The plan for the existing policies of a target at an instant. -/
def classify (target : Target) (upgrades : List ExistingUpgrade) (desired : DesiredVersion)
    (now : Instant) : Except UpgradeError Plan :=
  planBefore target desired (now.addMinutes scheduleWindow) upgrades

/-! ## Remarks -/

def dueText : Option Instant → String
  | none => "None"
  | some instant => "Some(" ++ instant.text ++ ")"

/-- What is logged about a policy that has been judged. -/
def remark (target : Target) (desired : DesiredVersion) (upgrade : ExistingUpgrade) :
    Except UpgradeError Verdict → List LogEvent
  | .ok .keep =>
    let message :=
      if upgrade.state.isExecuting then
        "Upgrade " ++ upgrade.id ++ " to " ++ upgrade.version ++ " is already "
          ++ upgrade.state.text
      else
        "Keeping upgrade " ++ upgrade.id ++ " to " ++ upgrade.version ++ ", due at "
          ++ dueText upgrade.nextRun
    [{ level := .debug, source := .coordinator, message }]
  | .error (.conflict ..) =>
    [{ level := .warn
       source := .coordinator
       message := "Upgrade " ++ upgrade.id ++ " of " ++ target.text ++ " to " ++ upgrade.version
         ++ " is already " ++ upgrade.state.text ++ ", cannot move to " ++ desired.rawId }]
  | _ => []

/-- The remarks up to the first policy that forbids the plan. -/
def remarks (target : Target) (desired : DesiredVersion) (deadline : Instant) :
    List ExistingUpgrade → List LogEvent
  | [] => []
  | upgrade :: rest =>
    let judged := judge target desired deadline upgrade
    remark target desired upgrade judged
      ++ (if judged.isOk then remarks target desired deadline rest else [])

end ClusterUpgrade
