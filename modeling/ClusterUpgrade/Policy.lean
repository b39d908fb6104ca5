import ClusterUpgrade.Target
import ClusterUpgrade.Time.Instant

/-!
Upgrade policies: what the remote side has been told to upgrade, when, and how far it has come.
-/

namespace ClusterUpgrade

/-- How far an upgrade policy has come. -/
inductive PolicyState where
  | pending
  | scheduled
  | started
  | delayed
  | completed
  | cancelled
  | unknown
  deriving Repr, DecidableEq, Inhabited

namespace PolicyState

def text : PolicyState → String
  | .pending => "pending"
  | .scheduled => "scheduled"
  | .started => "started"
  | .delayed => "delayed"
  | .completed => "completed"
  | .cancelled => "cancelled"
  | .unknown => "unknown"

/-- The upgrade has begun; it can no longer be called off. -/
def isExecuting : PolicyState → Bool
  | .started | .delayed => true
  | _ => false

/-- The upgrade is still to come. -/
def isWaiting : PolicyState → Bool
  | .pending | .scheduled => true
  | _ => false

/-- The upgrade is still to come or under way. -/
def isLive (state : PolicyState) : Bool := state.isWaiting || state.isExecuting

end PolicyState

/-- What a policy upgrades. -/
inductive UpgradeKind where
  | platform
  | controlPlane
  | nodePool
  | other
  deriving Repr, DecidableEq, Inhabited

/-- Whether the cluster itself moves, not one of its node pools. -/
def UpgradeKind.isPlatform : UpgradeKind → Bool
  | .platform | .controlPlane => true
  | _ => false

inductive ScheduleKind where
  | manual
  | automatic
  deriving Repr, DecidableEq, Inhabited

structure UpgradePolicy where
  id : String := ""
  clusterId : String := ""
  nodePoolId : Option String := none
  version : String := ""
  scheduleKind : ScheduleKind := .manual
  nextRun : Option Instant := none
  kind : UpgradeKind := .other
  deriving Repr, DecidableEq, Inhabited

/-- The part of a policy that its creator chooses. -/
structure PolicyDraft where
  scheduleKind : ScheduleKind
  version : String
  deriving Repr, DecidableEq, Inhabited

def PolicyDraft.manual (version : String) : PolicyDraft := { scheduleKind := .manual, version }

/-- The state document of a policy. -/
structure PolicyStatus where
  state : PolicyState
  description : String := ""
  deriving Repr, DecidableEq, Inhabited

/-- One page of a listing; `total` is zero if the remote side does not tell it. -/
structure PolicyPage where
  page : Nat := 0
  size : Nat := 0
  total : Nat := 0
  items : List UpgradePolicy := []
  deriving Repr, DecidableEq, Inhabited

/-- A policy together with its observed state. -/
structure ExistingUpgrade where
  policy : UpgradePolicy
  status : PolicyStatus
  deriving Repr, DecidableEq, Inhabited

namespace ExistingUpgrade

def id (upgrade : ExistingUpgrade) : String := upgrade.policy.id
def version (upgrade : ExistingUpgrade) : String := upgrade.policy.version
def state (upgrade : ExistingUpgrade) : PolicyState := upgrade.status.state
def nextRun (upgrade : ExistingUpgrade) : Option Instant := upgrade.policy.nextRun

end ExistingUpgrade

/-- Whether a policy bears on a target: for a cluster only policies that move the cluster itself,
for a node pool only policies that name this pool or no pool. -/
def Target.covers (target : Target) (policy : UpgradePolicy) : Bool :=
  match target with
  | .cluster _ => policy.kind.isPlatform
  | .nodePool _ pool => policy.nodePoolId.all (· == pool)

end ClusterUpgrade
