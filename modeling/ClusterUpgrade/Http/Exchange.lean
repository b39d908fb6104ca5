import ClusterUpgrade.Dialogue
import ClusterUpgrade.Http.Status
import ClusterUpgrade.Http.Url
import ClusterUpgrade.Json.Basic
import ClusterUpgrade.Text.Base64

/-!
HTTP requests and what comes back for them.
-/

namespace ClusterUpgrade.Http

inductive Method where
  | get
  | post
  | delete
  deriving Repr, DecidableEq, Inhabited

def Method.text : Method → String
  | .get => "GET"
  | .post => "POST"
  | .delete => "DELETE"

structure Request where
  method : Method
  url : Url
  /-- The user that the address of the server names. -/
  login : Option Login := none
  token : String
  /-- The document that the request carries. -/
  body : Option Json := none
  deriving Repr, Inhabited, BEq

/-- Why a request cannot be made. -/
inductive RequestFault where
  /-- The URL cannot be read, or the token cannot stand in a header. -/
  | malformed
  | unsendableUrl (url : Url)
  deriving Repr, DecidableEq, Inhabited

def RequestFault.message : RequestFault → String
  | .malformed => "builder error"
  | .unsendableUrl url => "builder error for url (" ++ url.text ++ ")"

/-- How the program names itself to servers. -/
def userAgent : String := "ocup/0.1.0"

def Login.credentials (login : Login) : String :=
  "Basic " ++ Text.base64 (login.user ++ ":" ++ login.password)

/-- The header for the user that the address names; it stands in front of the one for the token. -/
def Request.loginHeaders (request : Request) : List (String × String) :=
  request.login.toList.map fun login => ("authorization", login.credentials)

/-- The headers of a request, by lower-case name. -/
def Request.headers (request : Request) : List (String × String) :=
  request.loginHeaders
    ++ [("authorization", "Bearer " ++ request.token), ("user-agent", userAgent)]
    ++ (if request.body.isSome then [("content-type", "application/json")] else [])

structure Response where
  status : Nat
  /-- The bytes of the body, unless the connection broke off before it was complete. -/
  body : Option (List UInt8)
  deriving Repr, DecidableEq, Inhabited

/-- The response that a connection amounts to which carries a status, and a body if it is complete,
and nothing else. Statuses have three digits, and an interim response is no answer. -/
def Response.received? (status : Nat) (body : Option (List UInt8)) : Option Response :=
  if status < 100 ∨ 999 < status ∨ Status.isInterim status then none
  else some { status, body := if Status.isBodiless status then some [] else body }

/-- What comes back for a request: a response, or nothing if the connection failed. -/
abbrev Answer (_ : Request) : Type := Option Response

/-- A dialogue with an HTTP server. -/
abbrev HttpDialogue := Dialogue Request Answer

end ClusterUpgrade.Http
