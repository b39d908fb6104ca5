import ClusterUpgrade.Gate
import ClusterUpgrade.Remote.Failure
import ClusterUpgrade.Target
import ClusterUpgrade.Version.Semantic

/-!
Why an upgrade cannot be arranged. Each error holds its cause; `UpgradeError.message` words it.
-/

namespace ClusterUpgrade

/-- Why a version cannot be reached from the installed one. -/
inductive UnreachableVersion where
  | downgrade (desired : String) (current : Version)
  | notOffered (desired : String) (current : Version) (available : List String)
  deriving Repr, Inhabited, BEq

/-- What is wrong with the contents of a settings file. -/
inductive SettingsFault where
  | notYaml
  | notMapping
  | unnamedSetting
  | unknownSetting (name : String)
  | repeatedSetting (name : String)
  | wrongValue (name : String)
  deriving Repr, DecidableEq, Inhabited

/-- What is wrong with the settings of a run. -/
inductive ConfigError where
  | missingToken (variableName : String)
  | zeroPageSize
  | zeroTimeout
  | unknownScheme (url : String)
  | unreadableFile (path reason : String)
  | malformedFile (path : String) (fault : SettingsFault)
  deriving Repr, Inhabited, BEq

inductive UpgradeError where
  | invalidVersion (id : String)
  | unsupportedVersion (requested minimum : String)
  | unreachable (cause : UnreachableVersion)
  | conflict (target : Target) (requested inProgress : String)
  | consentRequired (target : Target) (requested : String) (request : ConsentRequest)
  | remote (operation subject : String) (failure : RemoteFailure)
  | config (cause : ConfigError)
  deriving Repr, Inhabited, BEq

def UnreachableVersion.message : UnreachableVersion → String
  | .downgrade desired current =>
    "Target version " ++ desired ++ " is lower than current version " ++ current.text
      ++ " (downgrade not supported)"
  | .notOffered desired current available =>
    "Version " ++ desired ++ " is not an available upgrade from " ++ current.text ++ " (available: "
      ++ (if available.isEmpty then "none" else String.intercalate ", " available) ++ ")"

def SettingsFault.message : SettingsFault → String
  | .notYaml => "not a YAML document"
  | .notMapping => "settings must be a mapping"
  | .unnamedSetting => "the name of a setting must be a text"
  | .unknownSetting name => "unknown setting " ++ name
  | .repeatedSetting name => "repeated setting " ++ name
  | .wrongValue name => "wrong value for " ++ name

def ConfigError.message : ConfigError → String
  | .missingToken variableName =>
    "an access token is required (--token or " ++ variableName ++ ")"
  | .zeroPageSize => "page size must be at least 1"
  | .zeroTimeout => "request timeout must be at least 1 second"
  | .unknownScheme url => "API URL must start with http:// or https://: " ++ url
  | .unreadableFile path reason => "failed to read " ++ path ++ ": " ++ reason
  | .malformedFile path fault => path ++ ": " ++ fault.message

namespace UpgradeError

def message : UpgradeError → String
  | .invalidVersion id => "Invalid version format: " ++ id
  | .unsupportedVersion requested minimum =>
    "Version " ++ requested ++ " is not supported (minimum supported version: " ++ minimum ++ ")"
  | .unreachable cause => "Upgrade not possible: " ++ cause.message
  | .conflict target requested inProgress =>
    "Cannot upgrade " ++ target.text ++ " to " ++ requested ++ ": a cluster upgrade to "
      ++ inProgress ++ " is already in progress"
  | .consentRequired target requested request =>
    "Cannot upgrade " ++ target.text ++ " to " ++ requested ++ ": " ++ request.description
  | .remote operation subject failure =>
    "[" ++ operation ++ "] " ++ subject ++ ": " ++ failure.message
  | .config cause => "Invalid configuration: " ++ cause.message

/-- Only a failed remote call may succeed when it is repeated. -/
def isTransient : UpgradeError → Bool
  | .remote _ _ failure => failure.isTransient
  | _ => false

end UpgradeError

end ClusterUpgrade
