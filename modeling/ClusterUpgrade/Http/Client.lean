import ClusterUpgrade.Http.Exchange
import ClusterUpgrade.Http.Status
import ClusterUpgrade.Json.Reader
import ClusterUpgrade.Remote.Call
import ClusterUpgrade.Text.Blank
import ClusterUpgrade.Wire.ApiError
import ClusterUpgrade.Wire.Policy
import ClusterUpgrade.Wire.Release

/-!
Remote calls as HTTP exchanges: the request that each call sends, and the reply that is read from
the response. `Client.connect` turns a dialogue of remote calls into one of HTTP requests.
-/

namespace ClusterUpgrade.Http

/-- Where requests go, and the access token that they carry. -/
structure Client where
  baseUrl : String
  token : String
  deriving Repr, DecidableEq, Inhabited

namespace Client

/-- The root of the interface below the address of the server. -/
def rootPath : String := "/api/clusters_mgmt/v1"

/-- A client for a server; slashes at the end of its address do not count. -/
def ofAddress (address token : String) : Client :=
  { baseUrl := String.ofList (Text.dropSuffixWhile (· == '/') address.toList) ++ rootPath, token }

/-! ## Requests -/

def policiesPath (target : Target) : String := target.path ++ "/upgrade_policies"

def policyPath (target : Target) (policyId : String) : String :=
  policiesPath target ++ "/" ++ policyId

/-- The method of a call, and the path below the root that it concerns. -/
def route : RemoteCall → Method × String
  | .listPolicies target _ _ => (.get, policiesPath target)
  | .policyStatus target policyId =>
    match target with
    | .cluster _ => (.get, policyPath target policyId ++ "/state")
    | .nodePool _ _ => (.get, policyPath target policyId)
  | .deletePolicy target policyId => (.delete, policyPath target policyId)
  | .createPolicy target _ => (.post, policiesPath target)
  | .dryRunPolicy target _ => (.post, policiesPath target)
  | .agreeToGate clusterId _ => (.post, "clusters/" ++ clusterId ++ "/gate_agreements")
  | .versionRecord id => (.get, "versions/" ++ id)
  | .currentVersion target => (.get, target.path)

/-- The parameters of a call, by name. -/
def parameters : RemoteCall → List (String × String)
  | .listPolicies _ page size => [("page", Text.natText page), ("size", Text.natText size)]
  | .dryRunPolicy .. => [("dryRun", "true")]
  | _ => []

/-- The document that a call sends. -/
def body? : RemoteCall → Option Json
  | .createPolicy _ draft => some (Wire.ofDraft draft)
  | .dryRunPolicy _ draft => some (Wire.ofDraft draft)
  | .agreeToGate _ gateId => some (Wire.agreementDraft gateId)
  | _ => none

/-- Whether a text can stand in a header: it holds no control character but the tab. -/
def isHeaderText (text : String) : Bool :=
  text.toList.all fun c => c == '\t' || (0x20 ≤ c.toNat && c.toNat != 0x7f)

/-- The URL that the address of the server and the path of a call make. -/
def address? (client : Client) (call : RemoteCall) : Option Url :=
  Url.parse? (client.baseUrl ++ "/" ++ (route call).2)

/-- The URL of a call, without credentials. -/
def url? (client : Client) (call : RemoteCall) : Option Url := do
  let url ← client.address? call
  return (parameters call).foldl (fun url (name, value) => url.withParameter name value)
    url.withoutCredentials

/-- The request that a call sends to its URL. -/
def requestTo (client : Client) (call : RemoteCall) (url : Url) : Request where
  method := (route call).1
  url
  login := (client.address? call).bind Url.login?
  token := client.token
  body := body? call

/-- The request of a call. -/
def request (client : Client) (call : RemoteCall) : Except RequestFault Request :=
  match client.url? call with
  | none => .error .malformed
  | some url =>
    if !isHeaderText client.token then .error .malformed
    else if !url.isSendable then .error (.unsendableUrl url)
    else .ok (client.requestTo call url)

/-! ## Responses -/

/-- What is said of an unsuccessful response whose body tells nothing. -/
def statusReason (status : Nat) : String := (Status.phrase? status).getD "request failed"

/-- The error that an unsuccessful response describes: its error document, or its text. -/
def errorOf (response : Response) : ApiError :=
  let text := Text.ofUtf8 (response.body.getD [])
  match (Json.parse? text).map Wire.apiError with
  | some (.ok error) => { error with status := response.status }
  | _ =>
    { status := response.status
      reason := if Text.isAllBlank text then statusReason response.status else Text.trim text }

/-- The characters of a document. A gap in its bytes stands for a text that only a string may hold
and that names no character there, so that the string may be skipped but not read. -/
def documentChars (bytes : List UInt8) : List Char :=
  (Text.decodeUtf8 bytes).flatMap fun
    | some c => [c]
    | none => "x\\ud800\\ud800".toList

/-- The value that the body of a successful response spells. -/
def valueOf? {α : Type} (reader : Wire.Reader α) (response : Response) : Option α := do
  let json ← Json.parseChars? (documentChars (← response.body))
  (reader json).toOption

/-- A response, or why there is none to read. -/
abbrev Result (α : Type) := Except RemoteFailure α

/-- Sends a request; anything but a successful response is a failure. -/
def send : Except RequestFault Request → HttpDialogue (Result Response)
  | .error fault => .done (.error (.transport fault.message))
  | .ok request => .ask request fun answer => .done <|
    match answer with
    | none => .error (.transport ("error sending request for url (" ++ request.url.text ++ ")"))
    | some response =>
      if Status.isSuccess response.status then .ok response else .error (.api (errorOf response))

def decodeFailure : RemoteFailure := .decode "error decoding response body"

/-- The value of a successful response. -/
def read {α : Type} (reader : Wire.Reader α) (result : Result Response) : Result α := do
  let response ← result
  match valueOf? reader response with
  | some value => .ok value
  | none => .error decodeFailure

/-- Whether a result says that the resource does not exist. -/
def isNotFound : Result Response → Bool
  | .error (.api error) => error.status == Status.notFound
  | _ => false

/-- The reply to a call that the result of its request amounts to. A dry run needs no body, and a
policy that does not exist counts as removed. -/
def replyOf (result : Result Response) : (call : RemoteCall) → call.Reply
  | .listPolicies .. => read Wire.page result
  | .policyStatus target _ =>
    match target with
    | .cluster _ => read Wire.status result
    | .nodePool _ _ => read Wire.embeddedStatus result
  | .deletePolicy .. => if isNotFound result then .ok () else result.map fun _ => ()
  | .createPolicy .. => read Wire.policy result
  | .dryRunPolicy target draft => result.map fun _ =>
    { clusterId := target.clusterId
      nodePoolId := target.nodePoolId?
      version := draft.version
      scheduleKind := draft.scheduleKind }
  | .agreeToGate .. => read Wire.agreement result
  | .versionRecord _ => read Wire.record result
  | .currentVersion target => do
    match ← read Wire.installedVersion result with
    | some id => .ok id
    | none => .error (.decode (target.text ++ " has no version"))

/-! ## Exchanges -/

/-- What is logged before a call is made. -/
def announcement : RemoteCall → String
  | .listPolicies target page size =>
    "Listing upgrade policies for " ++ target.text ++ " (page " ++ Text.natText page ++ ", size "
      ++ Text.natText size ++ ")"
  | .policyStatus target policyId =>
    "Getting state of upgrade policy " ++ policyId ++ " for " ++ target.text
  | .deletePolicy target policyId =>
    "Deleting upgrade policy " ++ policyId ++ " for " ++ target.text
  | .createPolicy target draft =>
    "Creating upgrade policy to " ++ draft.version ++ " for " ++ target.text ++ " (dry run: false)"
  | .dryRunPolicy target draft =>
    "Creating upgrade policy to " ++ draft.version ++ " for " ++ target.text ++ " (dry run: true)"
  | .agreeToGate clusterId gateId =>
    "Adding gate agreement for gate " ++ gateId ++ " on cluster " ++ clusterId
  | .versionRecord id => "Getting version " ++ id
  | .currentVersion target => "Getting current version of " ++ target.text

/-- What is logged after a call, besides its reply. -/
def afterword (result : Result Response) : RemoteCall → List LogEvent
  | .deletePolicy _ policyId =>
    if isNotFound result then
      [{ level := .debug
         source := .client
         message := "Upgrade policy " ++ policyId ++ " already gone" }]
    else []
  | _ => []

/-- One call as an exchange with the server. -/
def exchange (client : Client) (call : RemoteCall) : HttpDialogue call.Reply := do
  Dialogue.log .debug .client (announcement call)
  let result ← send (client.request call)
  Dialogue.logAll (afterword result call)
  return replyOf result call

/-- A dialogue of remote calls as a dialogue of requests. -/
def connect {α : Type} (client : Client) (dialogue : RemoteDialogue α) : HttpDialogue α :=
  dialogue.interpret client.exchange

end Client

end ClusterUpgrade.Http
