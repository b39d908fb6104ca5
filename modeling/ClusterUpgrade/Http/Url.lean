import ClusterUpgrade.Http.Host
import ClusterUpgrade.Text.Blank

/-!
Absolute URLs of the schemes `http` and `https`. Reading follows the WHATWG rules: blanks at the
ends and line breaks are dropped, a backslash is a slash, dot segments are resolved, and characters
that may not stand for themselves are percent-encoded.
-/

namespace ClusterUpgrade.Http

open Text

inductive Scheme where
  | http
  | https
  deriving Repr, DecidableEq, Inhabited

namespace Scheme

def text : Scheme → List Char
  | .http => "http".toList
  | .https => "https".toList

def defaultPort : Scheme → Nat
  | .http => 80
  | .https => 443

end Scheme

/-- A user name and a password, percent-encoded; an empty one is not given. -/
structure Credentials where
  user : List Char := []
  password : List Char := []
  deriving Repr, DecidableEq, Inhabited

/-- A user who is known by a password. -/
structure Login where
  user : String
  password : String
  deriving Repr, DecidableEq, Inhabited

structure Url where
  scheme : Scheme
  credentials : Credentials := {}
  host : Host
  /-- The port, unless it is that of the scheme. -/
  port : Option Nat := none
  /-- The path from its first slash on. -/
  path : List Char
  query : Option (List Char) := none
  fragment : Option (List Char) := none
  deriving Repr, DecidableEq, Inhabited

namespace Url

/-! ## Reserved characters -/

def reservedInFragment : List Char := [' ', '"', '<', '>', '\x60']
def reservedInPath : List Char := reservedInFragment ++ ['#', '?', '\x7b', '\x7d']
def reservedInCredentials : List Char := reservedInPath ++ "/:;=@[\\]^|".toList
def reservedInQuery : List Char := [' ', '"', '#', '<', '>', '\'']

/-! ## Paths -/

def isSlash (c : Char) : Bool := c == '/' || c == '\\'

/-- A segment with its encoded dots decoded. -/
def plainDots : List Char → List Char
  | '%' :: '2' :: 'e' :: rest => '.' :: plainDots rest
  | '%' :: '2' :: 'E' :: rest => '.' :: plainDots rest
  | c :: rest => c :: plainDots rest
  | [] => []

/-- Whether a segment is a letter with a colon or a bar, like the name of a drive. -/
def isDrive : List Char → Bool
  | [letter, mark] => letter.isAlpha && (mark == ':' || mark == '|')
  | _ => false

/-- The segments without the last one, which is the first in the list; a drive stays. -/
def goBack : List (List Char) → List (List Char)
  | segment :: before => if isDrive segment then segment :: before else before
  | [] => []

/-- Takes the segments of a path one after the other: a single dot stays where it is, two dots go
back by one segment, and a path that ends in dots ends with a slash. `resolved` holds the segments
so far, the last one first. -/
def resolve (resolved : List (List Char)) : List (List Char) → List (List Char)
  | [] => resolved.reverse
  | segment :: rest =>
    let afterDots (resolved : List (List Char)) := if rest.isEmpty then [] :: resolved else resolved
    if plainDots segment = ['.', '.'] then resolve (afterDots (goBack resolved)) rest
    else if plainDots segment = ['.'] then resolve (afterDots resolved) rest
    else resolve (Percent.encode reservedInPath segment :: resolved) rest

/-- The path that a text after the host spells. -/
def pathOf (text : List Char) : List Char :=
  let segments := splitOn '/' (text.map fun c => if isSlash c then '/' else c)
  let relative := match segments with
    | [] :: rest => rest
    | all => all
  '/' :: join '/' (resolve [] relative)

/-! ## Authorities -/

/-- A port after its colon; the default port of the scheme is left out. -/
def port? (scheme : Scheme) (text : List Char) : Option (Option Nat) :=
  if text.isEmpty then some none
  else if text.all isDigit ∧ ofDigits text < 65536 then
    some (if ofDigits text = scheme.defaultPort then none else some (ofDigits text))
  else none

/-- Where the host ends and a port begins: the first colon outside of brackets. -/
def cutPort (isBracketed : Bool) : List Char → List Char × Option (List Char)
  | [] => ([], none)
  | ':' :: rest => if isBracketed then (let (host, port) := cutPort true rest; (':' :: host, port))
    else ([], some rest)
  | c :: rest =>
    let (host, port) := cutPort ((isBracketed || c == '[') && c != ']') rest
    (c :: host, port)

/-- The credentials up to the last `@`, and the text after it. -/
def cutCredentials (text : List Char) : Credentials × List Char :=
  let address := (text.reverse.takeWhile (· != '@')).reverse
  let (user, password) := cutAt ':' (text.take (text.length - address.length - 1))
  let encode := Percent.encode reservedInCredentials
  ({ user := encode user, password := encode (password.getD []) }, address)

/-! ## Reading -/

def dropCase? (lead : List Char) (text : List Char) : Option (List Char) :=
  if (text.take lead.length).map Char.toLower = lead then some (text.drop lead.length) else none

/-- The scheme, and the text after its colon. -/
def scheme? (text : List Char) : Option (Scheme × List Char) :=
  [Scheme.http, .https].findSome? fun scheme =>
    (dropCase? (scheme.text ++ [':']) text).map (scheme, ·)

def isControlOrSpace (c : Char) : Bool := c.toNat ≤ 0x20

def ofChars? (text : List Char) : Option Url := do
  let trimmed := dropSuffixWhile isControlOrSpace (text.dropWhile isControlOrSpace)
  let joined := trimmed.filter fun c => c != '\t' && c != '\n' && c != '\r'
  let (scheme, rest) ← scheme? joined
  let (rest, fragment) := cutAt '#' (rest.dropWhile isSlash)
  let (rest, query) := cutAt '?' rest
  let (credentials, address) := cutCredentials (rest.takeWhile (!isSlash ·))
  let (host, port) := cutPort false address
  return {
    scheme, credentials
    host := ← Host.parse? host
    port := ← port? scheme (port.getD [])
    path := pathOf (rest.dropWhile (!isSlash ·))
    query := query.map (Percent.encode reservedInQuery)
    fragment := fragment.map (Percent.encode reservedInFragment) }

/-- The URL that a text spells. -/
def parse? (text : String) : Option Url := ofChars? text.toList

/-! ## Changing -/

/-- The URL with one more parameter; name and value hold letters and digits only. -/
def withParameter (url : Url) (name value : String) : Url :=
  let parameter := name.toList ++ '=' :: value.toList
  { url with
    query := match url.query with
      | none => some parameter
      | some [] => some parameter
      | some query => some (query ++ '&' :: parameter) }

/-- The text that an encoded part spells, if it spells any. -/
def spelled? (part : List Char) : Option String := ofUtf8? (Percent.decode part)

/-- The login that the credentials of the URL spell. There is none if the user name spells no text,
or if there is only a password and it spells none. -/
def login? (url : Url) : Option Login := do
  let user ← spelled? url.credentials.user
  let password := if url.credentials.password.isEmpty then none
    else spelled? url.credentials.password
  if user.isEmpty && password.isNone then none
  else return { user, password := password.getD "" }

/-- The URL without the credentials that make a login; others stay. -/
def withoutCredentials (url : Url) : Url :=
  if url.login?.isSome then { url with credentials := {} } else url

/-! ## Writing -/

/-- Host and port, as a request names them. -/
def authority (url : Url) : List Char :=
  url.host.text ++ url.port.elim [] (':' :: digits ·)

def queryChars (url : Url) : List Char := url.query.elim [] ('?' :: ·)

/-- Path and query, as a request names them. -/
def target (url : Url) : String := String.ofList (url.path ++ url.queryChars)

def credentialChars (url : Url) : List Char :=
  let { user, password } := url.credentials
  let both := user ++ (if password.isEmpty then [] else ':' :: password)
  if both.isEmpty then [] else both ++ ['@']

def text (url : Url) : String :=
  String.ofList (url.scheme.text ++ "://".toList ++ url.credentialChars ++ url.authority ++ url.path
    ++ url.queryChars ++ url.fragment.elim [] ('#' :: ·))

/-! ## Requests -/

/-- How many characters the URL of a request may have. -/
def longestText : Nat := 65534

/-- The characters that a URL may hold in a name but a request may not. -/
def unsendable : List Char := ['"', '\x60', '\x7b', '\x7d']

/-- Whether a request can be made for a URL. -/
def isSendable (url : Url) : Bool :=
  url.text.length ≤ longestText && !url.authority.any unsendable.contains

end Url

end ClusterUpgrade.Http
