import ClusterUpgrade.Error
import ClusterUpgrade.Version.Release

/-!
The version that a target is to converge on, and the checks that compare it with release ids.
-/

namespace ClusterUpgrade

namespace Release

/-- The version that a release id names, or the error that it names none. -/
def version (id : String) : Except UpgradeError Version :=
  match version? id with
  | some version => .ok version
  | none => .error (.invalidVersion id)

/-- How the versions of two release ids compare; the first id is read first. -/
def compareIds (a b : String) : Except UpgradeError Ordering := do
  return Version.compare (← version a) (← version b)

/-- The oldest version that upgrades are scheduled to. -/
def minimumSupported : String := "4.10"

/-- The version of an id that is not below the oldest supported one. -/
def supportedVersion (id : String) : Except UpgradeError Version := do
  let found ← version id
  let minimum ← version minimumSupported
  if found.isBelow minimum then .error (.unsupportedVersion id minimumSupported) else .ok found

end Release

/-- A release to converge on: its raw id, the version it names, and the channel group to look in. -/
structure DesiredVersion where
  rawId : String
  version : Version
  channelGroup : Option String
  deriving Repr, DecidableEq, Inhabited

namespace DesiredVersion

/-- Reads a release id; an empty channel group counts as none. -/
def parse (id : String) (channelGroup : Option String) : Except UpgradeError DesiredVersion := do
  return {
    rawId := Release.rawId id
    version := ← Release.version id
    channelGroup := channelGroup.filter (· ≠ "") }

/-- The id under which the catalog knows the release. -/
def catalogId (desired : DesiredVersion) : String :=
  Release.catalogId desired.rawId desired.channelGroup

def gatePrefix (desired : DesiredVersion) : String := desired.version.gatePrefix

/-- Whether a release id names this very version. -/
def isNamedBy (desired : DesiredVersion) (id : String) : Except UpgradeError Bool := do
  return (← Release.version id) == desired.version

/-- Two releases are the same if their versions are; the channel group does not matter. -/
def isSameAs (desired other : DesiredVersion) : Bool := desired.version == other.version

end DesiredVersion

end ClusterUpgrade
