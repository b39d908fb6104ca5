/-!
What is upgraded: a cluster, or one node pool of a cluster.
-/

namespace ClusterUpgrade

inductive Target where
  | cluster (clusterId : String)
  | nodePool (clusterId nodePoolId : String)
  deriving Repr, DecidableEq, Inhabited

namespace Target

/-- The owning cluster, against which gate agreements are recorded. -/
def clusterId : Target → String
  | .cluster id => id
  | .nodePool id _ => id

def nodePoolId? : Target → Option String
  | .cluster _ => none
  | .nodePool _ id => some id

/-- The path of the target's document below the root of the interface. -/
def path : Target → String
  | .cluster id => "clusters/" ++ id
  | .nodePool id pool => "clusters/" ++ id ++ "/node_pools/" ++ pool

/-- How messages name the target. -/
def text : Target → String
  | .cluster id => "cluster '" ++ id ++ "'"
  | .nodePool id pool => "node pool '" ++ pool ++ "' of cluster '" ++ id ++ "'"

end Target

end ClusterUpgrade
