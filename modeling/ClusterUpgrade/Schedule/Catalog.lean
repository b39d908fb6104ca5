import ClusterUpgrade.Remote.Call
import ClusterUpgrade.Version.Desired

/-!
Which versions the installed version may move to. The candidates are fetched one by one and only as
far as they are asked for.
-/

namespace ClusterUpgrade

/-- An installed version whose candidates have not been fetched yet. -/
structure UpgradeCatalog where
  installed : VersionRecord
  deriving Repr, DecidableEq, Inhabited

namespace UpgradeCatalog

/-- Fetches the record of one version. -/
def fetch (id : String) : Procedure VersionRecord :=
  Procedure.call "get version" ("version '" ++ id ++ "'") (.versionRecord id)

/-- Reads the record of the installed version. -/
def ofInstalled (id : String) : Procedure UpgradeCatalog := do
  let installed ← fetch id
  Procedure.log .debug .catalog
    ("Version " ++ installed.id ++ " advertises " ++ Text.natText installed.availableUpgrades.length
      ++ " upgrade(s)")
  return { installed }

/-- The ids under which the advertised versions are looked up, in order. -/
def lookupIds (catalog : UpgradeCatalog) : List String :=
  catalog.installed.availableUpgrades.map fun rawId =>
    Release.catalogId rawId catalog.installed.channelGroup

/-- One element of the sequence of candidates: a record, or why it could not be fetched. -/
abbrev Element := Except UpgradeError VersionRecord

/-- The first `count` elements: fetched in order, without the versions that are not offered. An
element that failed counts and does not end the sequence. -/
def takeElements : (count : Nat) → List String → RemoteDialogue (List Element)
  | 0, _ => return []
  | _, [] => return []
  | count + 1, id :: rest => do
    match ← (fetch id).run with
    | .error error => return .error error :: (← takeElements count rest)
    | .ok record =>
      if record.isOffered then return .ok record :: (← takeElements count rest)
      else takeElements (count + 1) rest

/-- A fresh pass over the candidates that ends after `count` elements. -/
def take (catalog : UpgradeCatalog) (count : Nat) : RemoteDialogue (List Element) :=
  takeElements count catalog.lookupIds

/-- Fetches records in order and keeps those that are offered; the first failure ends the pass. -/
def collectOffered : List String → Procedure (List VersionRecord)
  | [] => return []
  | id :: rest => do
    let record ← fetch id
    let others ← collectOffered rest
    return if record.isOffered then record :: others else others

/-- All candidates of the installed version. -/
def candidates (catalog : UpgradeCatalog) : Procedure (List VersionRecord) :=
  collectOffered catalog.lookupIds

end UpgradeCatalog

/-- How a desired version relates to the installed one. -/
inductive UpgradeCheck where
  | upToDate
  | available (record : VersionRecord)
  deriving Repr, DecidableEq, Inhabited

/-- The first record that names the desired version; a record before it must name some version. -/
def firstNaming (desired : DesiredVersion) :
    List VersionRecord → Except UpgradeError (Option VersionRecord)
  | [] => return none
  | record :: rest => do
    if ← desired.isNamedBy record.shownId then return some record else firstNaming desired rest

/-- Checks that a desired version can be reached from the installed one. -/
def validateUpgrade (currentId : String) (desired : DesiredVersion) : Procedure UpgradeCheck := do
  let current ← Procedure.ofExcept (Release.version currentId)
  if current == desired.version then
    Procedure.log .info .catalog ("Already at version " ++ desired.rawId)
    return .upToDate
  else if desired.version.isBelow current then
    throw (.unreachable (.downgrade desired.rawId current))
  else
    let catalog ← UpgradeCatalog.ofInstalled currentId
    let candidates ← catalog.candidates
    match ← Procedure.ofExcept (firstNaming desired candidates) with
    | some record => return .available record
    | none =>
      throw (.unreachable (.notOffered desired.rawId current (candidates.map (·.rawId))))

end ClusterUpgrade
