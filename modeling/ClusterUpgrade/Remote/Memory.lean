import ClusterUpgrade.Remote.Call

/-!
A remote side that keeps its policies and its version catalog in memory. Failure rules make chosen
calls fail; a failed call changes nothing.
-/

namespace ClusterUpgrade

namespace RemoteCall

/-- The name by which failure rules select a kind of call. -/
def name : RemoteCall → String
  | .listPolicies .. => "list"
  | .policyStatus .. => "state"
  | .deletePolicy .. => "delete"
  | .createPolicy .. => "create"
  | .dryRunPolicy .. => "dry_run"
  | .agreeToGate .. => "ack"
  | .versionRecord _ => "version"
  | .currentVersion _ => "current"

/-- What tells calls of one kind apart. -/
def key : RemoteCall → String
  | .listPolicies _ page size => Text.natText page ++ "/" ++ Text.natText size
  | .policyStatus _ policyId => policyId
  | .deletePolicy _ policyId => policyId
  | .createPolicy _ draft => draft.version
  | .dryRunPolicy _ draft => draft.version
  | .agreeToGate clusterId gateId => clusterId ++ "/" ++ gateId
  | .versionRecord id => id
  | .currentVersion target => target.path

end RemoteCall

/-- Calls of a name fail, all of them or only those with a key. -/
structure FailureRule where
  name : String
  key : Option String := none
  failure : RemoteFailure
  deriving Repr, Inhabited

def FailureRule.appliesTo (rule : FailureRule) (call : RemoteCall) : Bool :=
  rule.name == call.name && rule.key.all (· == call.key)

structure MemoryRemote where
  /-- The policies of all targets with their states, in listing order. -/
  policies : List ExistingUpgrade := []
  records : List VersionRecord := []
  /-- The version that every target reports as installed. -/
  installed : String := ""
  /-- The greatest number of policies on one page. -/
  pageCap : Option Nat := none
  /-- The total that every page reports; the number of policies if absent. -/
  reportedTotal : Option Nat := none
  failureRules : List FailureRule := []
  clock : Instant := .epoch
  /-- The number that the last generated id was made of. -/
  lastNumber : Nat := 1000
  deriving Repr, Inhabited

namespace MemoryRemote

/-! ## Operations -/

def record? (remote : MemoryRemote) (id : String) : Option VersionRecord :=
  remote.records.find? (·.id == id)

def policy? (remote : MemoryRemote) (id : String) : Option ExistingUpgrade :=
  remote.policies.find? (·.id == id)

/-- Removes all policies of an id. -/
def removePolicy (remote : MemoryRemote) (id : String) : MemoryRemote :=
  { remote with policies := remote.policies.filter (·.id != id) }

/-- Moves all policies of an id into a state; their descriptions stay. -/
def setState (remote : MemoryRemote) (id : String) (state : PolicyState) : MemoryRemote :=
  { remote with
    policies := remote.policies.map fun upgrade =>
      if upgrade.id == id then { upgrade with status := { upgrade.status with state } }
      else upgrade }

/-- How many policies a page holds that is asked for with a size. -/
def pageSize (remote : MemoryRemote) (size : Nat) : Nat := remote.pageCap.elim size (min size)

def page (remote : MemoryRemote) (page size : Nat) : PolicyPage :=
  let size := remote.pageSize size
  let items := (remote.policies.drop ((page - 1) * size)).take size
  { page
    size := items.length
    total := remote.reportedTotal.getD remote.policies.length
    items := items.map (·.policy) }

/-- The id of the next policy. -/
def nextId (remote : MemoryRemote) : String := Text.natText (remote.lastNumber + 1)

/-- The policy that a draft becomes: it is due one minute from now. -/
def newPolicy (remote : MemoryRemote) (target : Target) (draft : PolicyDraft) : UpgradePolicy :=
  { id := remote.nextId
    clusterId := target.clusterId
    nodePoolId := target.nodePoolId?
    version := draft.version
    scheduleKind := draft.scheduleKind
    nextRun := some (remote.clock.addMinutes 1)
    kind := if target.nodePoolId?.isSome then .nodePool else .platform }

/-- Appends a policy in state `scheduled`. -/
def addPolicy (remote : MemoryRemote) (policy : UpgradePolicy) : MemoryRemote :=
  { remote with
    policies := remote.policies ++ [{ policy, status := { state := .scheduled } }]
    lastNumber := remote.lastNumber + 1 }

def notFound (reason : String) : RemoteFailure := .api { status := 404, reason }

/-! ## Calls -/

/-- The reply to a call that no rule makes fail, and the remote side after it. -/
def perform (remote : MemoryRemote) : (call : RemoteCall) → call.Reply × MemoryRemote
  | .listPolicies _ page size => (.ok (remote.page page size), remote)
  | .policyStatus _ policyId =>
    match remote.policy? policyId with
    | some upgrade => (.ok upgrade.status, remote)
    | none => (.error (notFound "upgrade policy not found"), remote)
  | .deletePolicy _ policyId => (.ok (), remote.removePolicy policyId)
  | .createPolicy target draft =>
    let policy := remote.newPolicy target draft
    (.ok policy, remote.addPolicy policy)
  | .dryRunPolicy _ draft => (.ok { version := draft.version }, remote)
  | .agreeToGate _ gateId =>
    (.ok { id := "agreement-" ++ gateId, gate := { id := gateId }, createdAt := some remote.clock },
      remote)
  | .versionRecord id =>
    match remote.record? id with
    | some record => (.ok record, remote)
    | none => (.error (notFound "version not found"), remote)
  | .currentVersion _ => (.ok remote.installed, remote)

/-- The failure of the first rule that applies to a call. -/
def failure? (remote : MemoryRemote) (call : RemoteCall) : Option RemoteFailure :=
  (remote.failureRules.find? (·.appliesTo call)).map (·.failure)

/-- The reply to a call, and the remote side after it. -/
def respond (remote : MemoryRemote) (call : RemoteCall) : call.Reply × MemoryRemote :=
  match remote.failure? call with
  | some failure => (.error failure, remote)
  | none => remote.perform call

end MemoryRemote

end ClusterUpgrade
