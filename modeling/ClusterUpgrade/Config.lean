import ClusterUpgrade.CommandLine.Arguments
import ClusterUpgrade.Config.FileSettings
import ClusterUpgrade.Schedule.Listing
import ClusterUpgrade.Text.Utf8

/-!
The configuration of a run: what the command line and the environment say, then what the settings
file says, then defaults.
-/

namespace ClusterUpgrade

/-- The contents of files by their paths, or why a file cannot be read. -/
abbrev Files := String → Except String (List UInt8)

structure Config where
  command : Command
  apiUrl : String
  token : String
  pageSize : Nat
  /-- How many seconds a request may take. -/
  requestTimeout : Nat
  logLevel : String
  logFormat : LogFormat
  deriving Repr, DecidableEq, Inhabited

namespace FileSettings

/-- Reads the settings file at a path. -/
def load (files : Files) (path : String) : Except UpgradeError FileSettings :=
  match files path with
  | .error reason => .error (.config (.unreadableFile path reason))
  | .ok bytes =>
    match Text.ofUtf8? bytes with
    | none => .error (.config (.unreadableFile path "stream did not contain valid UTF-8"))
    | some content => (parse content).mapError fun fault => .config (.malformedFile path fault)

end FileSettings

namespace Config

def defaultApiUrl : String := "https://api.openshift.com"

def defaultRequestTimeout : Nat := 30

/-- The arguments over the settings of a file over the defaults. -/
def merge (arguments : Arguments) (settings : FileSettings) : Config where
  command := arguments.command
  apiUrl := (arguments.url <|> settings.url).getD defaultApiUrl
  token := arguments.token.getD ""
  pageSize := (arguments.pageSize <|> settings.pageSize).getD Listing.defaultPageSize
  requestTimeout :=
    (arguments.requestTimeout <|> settings.requestTimeout).getD defaultRequestTimeout
  logLevel := arguments.logLevel
  logFormat := arguments.logFormat

/-- The configuration that arguments lead to; the settings file is read if they name one. -/
def ofArguments (files : Files) (arguments : Arguments) : Except UpgradeError Config := do
  match arguments.config with
  | none => return merge arguments {}
  | some path => return merge arguments (← FileSettings.load files path)

/-- The beginnings of addresses that the program talks to. -/
def schemes : List String := ["http://", "https://"]

/-- Checks what a run needs before the first request. -/
def validate (config : Config) : Except UpgradeError Unit := do
  if Text.isAllBlank config.token then throw (.config (.missingToken OptionName.tokenVariable))
  if config.pageSize = 0 then throw (.config .zeroPageSize)
  if config.requestTimeout = 0 then throw (.config .zeroTimeout)
  if !schemes.any (·.toList.isPrefixOf config.apiUrl.toList) then
    throw (.config (.unknownScheme config.apiUrl))

end Config

end ClusterUpgrade
