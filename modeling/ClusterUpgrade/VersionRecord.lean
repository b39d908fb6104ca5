import ClusterUpgrade.Version.Release

/-!
The records of the version catalog, and the order in which they are shown.
-/

namespace ClusterUpgrade

structure VersionRecord where
  id : String := ""
  rawId : String := ""
  channelGroup : Option String := none
  isEnabled : Bool := false
  /-- Whether the managed service offers the version as an upgrade. -/
  isOffered : Bool := false
  isHostedEnabled : Bool := false
  availableUpgrades : List String := []
  deriving Repr, DecidableEq, Inhabited

/-- The id that names a record's version: the raw id, or the catalog id if that is empty. -/
def VersionRecord.shownId (record : VersionRecord) : String :=
  if record.rawId = "" then record.id else record.rawId

namespace Release

/-- Versions in order, with what names no version in front of them. -/
def isAtMost : Option Version → Option Version → Bool
  | none, _ => true
  | some _, none => false
  | some a, some b => Version.compare a b != .gt

/-- A stable sort by the versions that release ids name. -/
def oldestFirst {α : Type} (idOf : α → String) (items : List α) : List α :=
  items.mergeSort fun a b => isAtMost (version? (idOf a)) (version? (idOf b))

end Release

end ClusterUpgrade
