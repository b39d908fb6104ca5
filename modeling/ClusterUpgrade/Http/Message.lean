import ClusterUpgrade.Http.Exchange
import ClusterUpgrade.Http.Status
import ClusterUpgrade.Json.Writer
import ClusterUpgrade.Text.Blank
import ClusterUpgrade.Text.Numeral

/-!
Requests and responses as the bytes of HTTP/1.1, on connections that carry one exchange each.
-/

namespace ClusterUpgrade.Http

/-! ## Requests -/

/-- Whether a URL asks for a connection without encryption. -/
def Url.isPlain (url : Url) : Bool := url.scheme == .http

/-- The host and the port to connect to. -/
def Url.endpoint (url : Url) : String × String :=
  let host := match url.host with
    | .address6 address => address.text
    | other => other.text
  (String.ofList host, Text.natText (url.port.getD url.scheme.defaultPort))

namespace Request

/-- The headers that a message has besides those of the request. -/
def messageHeaders (request : Request) (contentLength : Nat) : List (String × String) :=
  [("accept", "*/*"), ("host", String.ofList request.url.authority), ("connection", "close")]
    ++ (if request.body.isSome then [("content-length", Text.natText contentLength)] else [])

/-- The bytes of a request. -/
def message (request : Request) : List UInt8 :=
  let content := request.body.elim [] fun body => Text.utf8 body.write
  let start := request.method.text ++ " " ++ request.url.target ++ " HTTP/1.1"
  let headers := (request.headers ++ request.messageHeaders content.length).map
    fun (name, value) => name ++ ": " ++ value
  Text.utf8 (String.join ((start :: headers ++ [""]).map (· ++ "\r\n"))) ++ content

end Request

/-! ## Responses -/

namespace Response

/-- The bytes up to a line end, and those after it. -/
def cutLine : List UInt8 → Option (List UInt8 × List UInt8)
  | 13 :: 10 :: rest => some ([], rest)
  | byte :: rest => (cutLine rest).map fun (line, after) => (byte :: line, after)
  | [] => none

/-- The lines in front of an empty one, and the bytes behind it. -/
def cutHead : (fuel : Nat) → List UInt8 → Option (List String × List UInt8)
  | 0, _ => none
  | fuel + 1, bytes => do
    let (line, rest) ← cutLine bytes
    if line.isEmpty then return ([], rest)
    else
      let (lines, rest) ← cutHead fuel rest
      return (Text.ofUtf8 line :: lines, rest)

/-- The name of a header in lower case, and its value. -/
def header (line : String) : String × String :=
  let (name, value) := Text.cutAt ':' line.toList
  (String.ofList (name.map Char.toLower), String.ofList (Text.trimChars (value.getD [])))

/-- The content of a body that comes in chunks, each behind its length. -/
def unchunk? : (fuel : Nat) → List UInt8 → Option (List UInt8)
  | 0, _ => none
  | fuel + 1, bytes => do
    let (line, rest) ← cutLine bytes
    let size ← Text.numeral? 16 (Text.trimChars (Text.cutAt ';' (Text.ofUtf8 line).toList).1)
    if size = 0 then return []
    else if rest.length < size then none
    else
      let (_, after) ← cutLine (rest.drop size)
      return rest.take size ++ (← unchunk? fuel after)

/-- The body that the bytes behind the headers hold, `none` if they are not complete. -/
def body? (headers : List (String × String)) (bytes : List UInt8) : Option (List UInt8) :=
  if (headers.lookup "transfer-encoding").any (·.toLower == "chunked") then
    unchunk? (bytes.length + 1) bytes
  else
    match (headers.lookup "content-length").bind (Text.numeral? 10 ·.toList) with
    | some length => if bytes.length < length then none else some (bytes.take length)
    | none => some bytes

/-- The status that the first line of a response names. -/
def statusOf? (line : String) : Option Nat :=
  match Text.splitOn ' ' line.toList with
  | _ :: status :: _ => Text.numeral? 10 status
  | _ => none

/-- The response in all bytes that came over a connection; interim ones in front of it do not
count. -/
def ofMessages? : (fuel : Nat) → List UInt8 → Option Response
  | 0, _ => none
  | fuel + 1, bytes => do
    let (lines, rest) ← cutHead (bytes.length + 1) bytes
    let status ← statusOf? (← lines.head?)
    if Status.isInterim status then ofMessages? fuel rest
    else received? status (body? (lines.tail.map header) rest)

end Response

end ClusterUpgrade.Http
