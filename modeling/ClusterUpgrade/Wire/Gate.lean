import ClusterUpgrade.Gate
import ClusterUpgrade.Time.Rfc3339
import ClusterUpgrade.Wire.Document

/-!
The documents of version gates and of agreements to them.
-/

namespace ClusterUpgrade.Wire

/-- An instant as a text. -/
def instant : Reader Instant
  | .string text =>
    match Instant.parse? text with
    | some instant => .ok instant
    | none => .error (.wrongType (.string text) "an RFC 3339 formatted date and time string")
  | found => .error (.wrongType found "an RFC 3339 formatted date and time string")

def ofInstant (instant : Instant) : Json := .string instant.text

def gateFields : List String :=
  ["id", "version_raw_id_prefix", "label", "value", "warning_message", "description",
    "documentation_url", "sts_only"]

/-- Checks the type of one field of a version gate. -/
def checkGateField (field : String × Json) : Except Mismatch Unit :=
  if field.1 = "sts_only" then (bool field.2).map fun _ => ()
  else if gateFields.contains field.1 then (string field.2).map fun _ => ()
  else .ok ()

/-- A version gate. The first field of a wrong type is the one that is told. -/
def gate : Reader VersionGate := fun json => do
  (givenFields gateFields json).forM checkGateField
  let fields ← document "struct VersionGate" gateFields json
  return {
    id := ← fields.text "id"
    versionPrefix := ← fields.text "version_raw_id_prefix"
    label := ← fields.text "label"
    value := ← fields.text "value"
    warning := ← fields.text "warning_message"
    description := ← fields.text "description"
    documentationUrl := ← fields.text "documentation_url"
    isAutomatic := ← fields.flag "sts_only" }

def ofGate (gate : VersionGate) : Json :=
  .object [("id", .string gate.id), ("version_raw_id_prefix", .string gate.versionPrefix),
    ("label", .string gate.label), ("value", .string gate.value),
    ("warning_message", .string gate.warning), ("description", .string gate.description),
    ("documentation_url", .string gate.documentationUrl), ("sts_only", .bool gate.isAutomatic)]

def agreementFields : List String := ["id", "version_gate", "creation_timestamp"]

def agreement : Reader GateAgreement := fun json => do
  let fields ← document "struct GateAgreement" agreementFields json
  return {
    id := ← fields.text "id"
    gate := ← fields.field "version_gate" gate {}
    createdAt := ← fields.optionalField "creation_timestamp" instant }

def ofAgreement (agreement : GateAgreement) : Json :=
  objectOf [present "id" (.string agreement.id), present "version_gate" (ofGate agreement.gate),
    presentIf "creation_timestamp" ofInstant agreement.createdAt]

/-- The body that records the agreement to a gate. -/
def agreementDraft (gateId : String) : Json :=
  .object [("version_gate", .object [("id", .string gateId)])]

end ClusterUpgrade.Wire
