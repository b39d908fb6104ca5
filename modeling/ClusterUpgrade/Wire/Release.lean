import ClusterUpgrade.VersionRecord
import ClusterUpgrade.Wire.Document

/-!
The documents of version records, and the version inside the document of a target.
-/

namespace ClusterUpgrade.Wire

def recordFields : List String :=
  ["id", "raw_id", "channel_group", "enabled", "rosa_enabled", "hosted_control_plane_enabled",
    "available_upgrades"]

def record : Reader VersionRecord := fun json => do
  let fields ← document "struct VersionInfo" recordFields json
  return {
    id := ← fields.text "id"
    rawId := ← fields.text "raw_id"
    channelGroup := ← fields.optionalField "channel_group" string
    isEnabled := ← fields.flag "enabled"
    isOffered := ← fields.flag "rosa_enabled"
    isHostedEnabled := ← fields.flag "hosted_control_plane_enabled"
    availableUpgrades := ← fields.field "available_upgrades" (list "a sequence" string) [] }

def ofRecord (record : VersionRecord) : Json :=
  objectOf [present "id" (.string record.id), present "raw_id" (.string record.rawId),
    presentIf "channel_group" .string record.channelGroup,
    present "enabled" (.bool record.isEnabled), present "rosa_enabled" (.bool record.isOffered),
    present "hosted_control_plane_enabled" (.bool record.isHostedEnabled),
    present "available_upgrades" (.array (record.availableUpgrades.map .string))]

/-- A reference to a version: the id, or the raw id if the id is empty. -/
def versionReference : Reader String := fun json => do
  let fields ← document "struct VersionRef" ["id", "raw_id"] json
  let id ← fields.text "id"
  let rawId ← fields.text "raw_id"
  return if id = "" then rawId else id

/-- The version that the document of a target refers to, if it refers to one that is not empty. -/
def installedVersion : Reader (Option String) := fun json => do
  let fields ← document "struct VersionedResource" ["version"] json
  let reference ← fields.optionalField "version" versionReference
  return reference.filter (· ≠ "")

end ClusterUpgrade.Wire
