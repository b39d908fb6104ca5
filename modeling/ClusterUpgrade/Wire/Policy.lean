import ClusterUpgrade.Policy
import ClusterUpgrade.Wire.Gate

/-!
The documents of upgrade policies, their states, and pages of policies.
-/

namespace ClusterUpgrade.Wire

/-! ## Names -/

def stateName (state : PolicyState) : String := state.text

/-- The state of a name; any other name is an unknown state. -/
def stateOfName (name : String) : PolicyState :=
  ([.pending, .scheduled, .started, .delayed, .completed, .cancelled].find?
    (·.text == name)).getD .unknown

def kindName : UpgradeKind → String
  | .platform => "OSD"
  | .controlPlane => "ControlPlane"
  | .nodePool => "NodePool"
  | .other => "Other"

/-- The kind of a name; any other name is another kind. -/
def kindOfName (name : String) : UpgradeKind :=
  ([.platform, .controlPlane, .nodePool].find? (kindName · == name)).getD .other

def scheduleName : ScheduleKind → String
  | .manual => "manual"
  | .automatic => "automatic"

def scheduleKind : Reader ScheduleKind := fun json => do
  match ← name json with
  | "manual" => return .manual
  | "automatic" => return .automatic
  | found => throw (.unknownName found ["manual", "automatic"])

/-! ## Documents -/

def policyFields : List String :=
  ["id", "cluster_id", "node_pool_id", "version", "schedule_type", "next_run", "upgrade_type"]

def policy : Reader UpgradePolicy := fun json => do
  let fields ← document "struct UpgradePolicy" policyFields json
  return {
    id := ← fields.text "id"
    clusterId := ← fields.text "cluster_id"
    nodePoolId := ← fields.optionalField "node_pool_id" string
    version := ← fields.text "version"
    scheduleKind := ← fields.field "schedule_type" scheduleKind .manual
    nextRun := ← fields.optionalField "next_run" instant
    kind := ← fields.field "upgrade_type" (fun json => (name json).map kindOfName) .other }

def ofPolicy (policy : UpgradePolicy) : Json :=
  objectOf [present "id" (.string policy.id), present "cluster_id" (.string policy.clusterId),
    presentIf "node_pool_id" .string policy.nodePoolId, present "version" (.string policy.version),
    present "schedule_type" (.string (scheduleName policy.scheduleKind)),
    presentIf "next_run" ofInstant policy.nextRun,
    present "upgrade_type" (.string (kindName policy.kind))]

/-- The body that asks for a new policy. -/
def ofDraft (draft : PolicyDraft) : Json :=
  .object [("schedule_type", .string (scheduleName draft.scheduleKind)),
    ("version", .string draft.version)]

def statusFields : List String := ["value", "description"]

def status : Reader PolicyStatus := fun json => do
  let fields ← document "struct PolicyStateInfo" statusFields json
  return {
    state := ← fields.required "value" fun json => (name json).map stateOfName
    description := ← fields.text "description" }

def ofStatus (status : PolicyStatus) : Json :=
  .object [("value", .string (stateName status.state)), ("description", .string status.description)]

def pageFields : List String := ["page", "size", "total", "items"]

def page : Reader PolicyPage := fun json => do
  let fields ← document "struct PolicyPage" pageFields json
  return {
    page := ← fields.field "page" nat32 0
    size := ← fields.field "size" nat32 0
    total := ← fields.field "total" nat32 0
    items := ← fields.field "items" (list "a sequence" policy) [] }

/-- The state inside the document of a node-pool policy. -/
def embeddedStatus : Reader PolicyStatus := fun json => do
  let fields ← document "struct PolicyWithState" ["state"] json
  fields.required "state" status

end ClusterUpgrade.Wire
