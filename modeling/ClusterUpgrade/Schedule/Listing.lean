import ClusterUpgrade.Remote.Call

/-!
Reading the existing policies of a target: all pages of the listing, then the state of every policy
that bears on the target.
-/

namespace ClusterUpgrade

namespace Listing

def defaultPageSize : Nat := 100

/-- The greatest page number that can be asked for. -/
def lastPage : Nat := Text.bound32 - 1

/-- Whether a page ends the listing: it is empty, all reported policies have come, or, where the
remote side reports no total, it is shorter than a full page. -/
def isDrained (size gathered : Nat) (page : PolicyPage) : Bool :=
  page.items.isEmpty ||
    (if 0 < page.total then page.total ≤ gathered else page.items.length < size)

/-- The policies gathered so far and those of all pages from a page on. -/
def drainFrom (target : Target) (size page : Nat) (gathered : List UpgradePolicy) :
    Procedure (List UpgradePolicy) := do
  let response ← Procedure.call "list upgrade policies" target.text (.listPolicies target page size)
  let gathered := gathered ++ response.items
  if isDrained size gathered.length response then return gathered
  else if page < lastPage then drainFrom target size (page + 1) gathered
  else return gathered
termination_by lastPage - page

/-- The policies that bear on a target, in listing order. -/
def policies (target : Target) (pageSize : Nat) : Procedure (List UpgradePolicy) := do
  let all ← drainFrom target (max pageSize 1) 1 []
  let covered := all.filter target.covers
  Procedure.log .debug .reader
    ("Found " ++ Text.natText all.length ++ " upgrade policies for " ++ target.text ++ " ("
      ++ Text.natText covered.length ++ " in scope)")
  return covered

def status (target : Target) (policyId : String) : Procedure PolicyStatus :=
  Procedure.call ("get state of upgrade policy '" ++ policyId ++ "'") target.text
    (.policyStatus target policyId)

/-- Looks up the state of every policy, in order. -/
def withStatus (target : Target) : List UpgradePolicy → Procedure (List ExistingUpgrade)
  | [] => return []
  | policy :: rest => do
    let status ← status target policy.id
    Procedure.log .debug .reader
      ("Found existing upgrade policy " ++ policy.id ++ " to " ++ policy.version ++ " in state "
        ++ status.state.text)
    let others ← withStatus target rest
    return { policy, status } :: others

/-- The policies that bear on a target with their states, in listing order. -/
def upgrades (target : Target) (pageSize : Nat) : Procedure (List ExistingUpgrade) := do
  withStatus target (← policies target pageSize)

end Listing

end ClusterUpgrade
