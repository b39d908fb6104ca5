import ClusterUpgrade.Remote.Call
import ClusterUpgrade.Version.Desired
import ClusterUpgrade.Wire.Gate

/-!
Finding the version gates that stand before an upgrade, and agreeing to them. A dry run of the
creation either passes, or is refused with the gates that are missing, or fails.
-/

namespace ClusterUpgrade

/-- The result of a gate check that did not fail. -/
inductive GateCheck where
  | clear
  | missing (gates : List VersionGate)
  deriving Repr, DecidableEq, Inhabited

/-- What the details of a refused dry run turn out to be. -/
inductive GateDetails where
  | absent
  | malformed (mismatch : Wire.Mismatch)
  | empty
  /-- A list whose first gate has no id belongs to another kind of error. -/
  | anonymous
  | usable (gates : List VersionGate)

namespace GateDetails

def ofError (error : ApiError) : GateDetails :=
  match error.details with
  | none => .absent
  | some details =>
    match Wire.list "a sequence" Wire.gate details with
    | .error mismatch => .malformed mismatch
    | .ok [] => .empty
    | .ok (first :: rest) => if first.id = "" then .anonymous else .usable (first :: rest)

/-- The gates of a usable list. -/
def gates? : GateDetails → Option (List VersionGate)
  | .usable gates => some gates
  | _ => none

/-- The warning about details that should have been a list of gates. -/
def warnings : GateDetails → List LogEvent
  | .malformed mismatch =>
    [{ level := .warn
       source := .gates
       message := "Error details are not a version gate list: " ++ mismatch.message }]
  | .anonymous =>
    [{ level := .warn
       source := .gates
       message := "Error details contain a version gate without id, ignoring gate list" }]
  | _ => []

end GateDetails

namespace GateCheck

def operation : String := "check missing gate agreements"

/-- Discovers the gates that are not agreed to yet, by a dry run. -/
def run (target : Target) (desired : DesiredVersion) : Procedure GateCheck := do
  let reply ← Procedure.attempt (.dryRunPolicy target (.manual desired.rawId))
  match reply with
  | .ok _ =>
    Procedure.log .debug .gates
      ("No missing gate agreements for " ++ target.text ++ " to " ++ desired.rawId)
    return .clear
  | .error (.api error) =>
    let details := GateDetails.ofError error
    Procedure.logAll details.warnings
    match details.gates? with
    | some gates =>
      Procedure.log .debug .gates
        (Text.natText gates.length ++ " gate agreement(s) missing for " ++ target.text ++ " to "
          ++ desired.rawId)
      return .missing gates
    | none => throw (.remote operation target.text (.api error))
  | .error failure => throw (.remote operation target.text failure)

/-- Records the agreement to one gate against the owning cluster. -/
def acknowledge (target : Target) (gate : VersionGate) : Procedure GateAgreement := do
  Procedure.log .info .gates
    ("Acknowledging version gate " ++ gate.id ++ " (" ++ gate.label ++ ") for " ++ target.text)
  Procedure.call ("acknowledge version gate '" ++ gate.id ++ "'") target.text
    (.agreeToGate target.clusterId gate.id)

/-- Agrees to gates one after the other; the ids of those agreed to, in order. -/
def acknowledgeAll (target : Target) : List VersionGate → Procedure (List String)
  | [] => return []
  | gate :: rest => do
    let _ ← acknowledge target gate
    let others ← acknowledgeAll target rest
    return gate.id :: others

end GateCheck

end ClusterUpgrade
