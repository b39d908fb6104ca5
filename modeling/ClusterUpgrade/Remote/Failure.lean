import ClusterUpgrade.Json.Basic
import ClusterUpgrade.Text.Decimal

/-!
How a single remote call fails.
-/

namespace ClusterUpgrade

/-- An error document of the remote side, with the status of the answer that carried it. -/
structure ApiError where
  status : Nat := 0
  kind : String := ""
  id : String := ""
  code : String := ""
  reason : String := ""
  details : Option Json := none
  operationId : String := ""
  deriving Repr, Inhabited, BEq

/-- Mentions code, reason and operation only where they are present. -/
def ApiError.message (error : ApiError) : String :=
  "status " ++ Text.natText error.status
    ++ (if error.code = "" then "" else ", code '" ++ error.code ++ "'")
    ++ (if error.reason = "" then "" else ": " ++ error.reason)
    ++ (if error.operationId = "" then "" else " (operation id '" ++ error.operationId ++ "')")

inductive RemoteFailure where
  /-- The remote side answered with an error. -/
  | api (error : ApiError)
  /-- No answer came back. -/
  | transport (reason : String)
  /-- A successful answer could not be understood. -/
  | decode (reason : String)
  deriving Repr, Inhabited, BEq

namespace RemoteFailure

def message : RemoteFailure → String
  | .api error => error.message
  | .transport reason => "transport error: " ++ reason
  | .decode reason => "unexpected response: " ++ reason

/-- Whether the same call may succeed later: no answer, throttling, or a fault of the server. -/
def isTransient : RemoteFailure → Bool
  | .api error => error.status == 429 || 500 ≤ error.status
  | .transport _ => true
  | .decode _ => false

end RemoteFailure

end ClusterUpgrade
