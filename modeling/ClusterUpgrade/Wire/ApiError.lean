import ClusterUpgrade.Remote.Failure
import ClusterUpgrade.Wire.Document

/-!
The document that describes why a call was refused.
-/

namespace ClusterUpgrade.Wire

/-- Details are kept as they are, if they nest less deep than this inside the document. -/
def detailDepthLimit : Nat := 127

def details : Reader (Option Json)
  | .null => .ok none
  | json =>
    match json.canonical with
    | some kept =>
      if json.depth < detailDepthLimit then .ok (some kept)
      else .error (.wrongType json "a value that nests less deep")
    | none => .error (.wrongType json "any valid JSON value")

def apiErrorFields : List String := ["kind", "id", "code", "reason", "details", "operation_id"]

/-- An error document; the status is never read from it. -/
def apiError : Reader ApiError := fun json => do
  let fields ← document "struct ApiErrorBody" apiErrorFields json
  return {
    kind := ← fields.text "kind"
    id := ← fields.text "id"
    code := ← fields.text "code"
    reason := ← fields.text "reason"
    details := ← fields.field "details" details none
    operationId := ← fields.text "operation_id" }

end ClusterUpgrade.Wire
