import ClusterUpgrade.Log.Format
import ClusterUpgrade.Text.Numeral
import ClusterUpgrade.Text.Split

/-!
The commands of the program and the options that each of them takes, with the values that options
accept.
-/

namespace ClusterUpgrade

inductive CommandName where
  | upgrade
  | gates
  | versions
  | policies
  deriving Repr, DecidableEq, Inhabited

namespace CommandName

def text : CommandName → String
  | .upgrade => "upgrade"
  | .gates => "gates"
  | .versions => "versions"
  | .policies => "policies"

def all : List CommandName := [.upgrade, .gates, .versions, .policies]

def ofText? (name : String) : Option CommandName := all.find? (·.text == name)

end CommandName

inductive OptionName where
  | cluster
  | nodePool
  | version
  | channelGroup
  | ackFor
  | dryRun
  | url
  | token
  | config
  | pageSize
  | requestTimeout
  | logLevel
  | logFormat
  deriving Repr, DecidableEq, Inhabited

/-- A part of the command line with options of its own: in front of the command, or behind it. -/
inductive Level where
  | program
  | command (name : CommandName)
  deriving Repr, DecidableEq, Inhabited

/-- Why a text is not a number of those that an option takes. -/
inductive NumberFault where
  | empty
  | invalidDigit
  | tooLarge
  | tooSmall
  | outOfRange (value : Int)
  deriving Repr, DecidableEq, Inhabited

/-- What help is about: a part of the command line, or the command that gives help. -/
inductive HelpTopic where
  | level (level : Level)
  | help
  deriving Repr, DecidableEq, Inhabited

/-- Why the words of a command line are refused, or what they ask for instead of a command. -/
inductive UsageError where
  | helpWanted (topic : HelpTopic) (isLong : Bool)
  | versionWanted
  | nothingGiven
  | missingCommand
  | unknownCommand (word : String)
  | unknownArgument (argument : String)
  | missingValue (option : OptionName)
  | emptyValue (option : OptionName)
  | unlistedValue (option : OptionName) (value : String)
  | malformedNumber (option : OptionName) (value : String) (fault : NumberFault)
  | repeatedOption (option : OptionName)
  /-- A switch that takes no value was given one. -/
  | unwantedValue (argument value : String)
  | missingOptions (options : List OptionName)
  deriving Repr, DecidableEq, Inhabited

/-- The status that the program exits with: asking for information is no mistake. -/
def UsageError.exitCode : UsageError → Nat
  | .helpWanted .. | .versionWanted => 0
  | _ => 2

inductive OptionValue where
  | flag
  | text (value : String)
  | number (value : Nat)
  | format (value : LogFormat)
  deriving Repr, DecidableEq, Inhabited

namespace OptionName

/-- The name of an option on the command line, after two dashes. -/
def long : OptionName → String
  | .cluster => "cluster"
  | .nodePool => "node-pool"
  | .version => "version"
  | .channelGroup => "channel-group"
  | .ackFor => "ack-for"
  | .dryRun => "dry-run"
  | .url => "url"
  | .token => "token"
  | .config => "config"
  | .pageSize => "page-size"
  | .requestTimeout => "request-timeout"
  | .logLevel => "log-level"
  | .logFormat => "log-format"

/-- The letter of an option on the command line, after one dash. -/
def short? : OptionName → Option Char
  | .cluster => some 'c'
  | .nodePool => some 'n'
  | _ => none

/-- The environment variable that may hold the access token. -/
def tokenVariable : String := "OCM_TOKEN"

/-- The environment variable that stands in for an option. -/
def environmentName? : OptionName → Option String
  | .url => some "OCM_URL"
  | .token => some tokenVariable
  | .config => some "OCUP_CONFIG"
  | .pageSize => some "OCUP_PAGE_SIZE"
  | .requestTimeout => some "OCUP_REQUEST_TIMEOUT"
  | .logLevel => some "OCUP_LOG_LEVEL"
  | .logFormat => some "OCUP_LOG_FORMAT"
  | _ => none

def isFlag : OptionName → Bool
  | .dryRun => true
  | _ => false

/-! ## Values -/

/-- Reads digits one after the other, and stops at the first that is none, or that takes the number
up to a bound. -/
def readDigits (bound value : Nat) : List Char → Except NumberFault Nat
  | [] => .ok value
  | c :: rest =>
    if !Text.isDigit c then .error .invalidDigit
    else
      let value := 10 * value + Text.digitValue c
      if bound ≤ value then .error .tooLarge else readDigits bound value rest

/-- Reads the digits behind a sign. -/
def readSigned (bound : Nat) (digits : List Char) : Except NumberFault Nat :=
  if digits.isEmpty then .error .invalidDigit else readDigits bound 0 digits

/-- A number without a minus sign, below a bound. -/
def readUnsigned (bound : Nat) : List Char → Except NumberFault Nat
  | [] => .error .empty
  | '+' :: digits => readSigned bound digits
  | digits => readDigits bound 0 digits

/-- How many numbers of 64 bits are below zero. -/
def signedBound : Nat := Text.bound64 / 2

/-- A number of 64 bits that may have a sign. -/
def readInteger : List Char → Except NumberFault Int
  | '-' :: digits =>
    match readSigned (signedBound + 1) digits with
    | .ok value => .ok (-value)
    | .error .tooLarge => .error .tooSmall
    | .error fault => .error fault
  | text => (readUnsigned signedBound text).map Int.ofNat

/-- A number of 64 bits, if it is not negative and has 32 bits at most. -/
def readBounded (text : List Char) : Except NumberFault Nat := do
  let value ← readInteger text
  if 0 ≤ value ∧ value < Text.bound32 then return value.toNat
  else throw (.outOfRange value)

/-- The number that an option was given, or what is wrong with its text. -/
def ofNumber (option : OptionName) (text : String) :
    Except NumberFault Nat → Except UsageError OptionValue
  | .ok value => .ok (.number value)
  | .error fault => .error (.malformedNumber option text fault)

/-- Reads the value of an option. -/
def read (option : OptionName) (text : String) : Except UsageError OptionValue :=
  match option with
  | .dryRun => .ok .flag
  | .config => if text.isEmpty then .error (.emptyValue option) else .ok (.text text)
  | .pageSize => ofNumber option text (readBounded text.toList)
  | .requestTimeout => ofNumber option text (readUnsigned Text.bound64 text.toList)
  | .logFormat =>
    match LogFormat.ofName? text with
    | some format => .ok (.format format)
    | none => .error (.unlistedValue option text)
  | _ => .ok (.text text)

end OptionName

namespace Level

/-- The options that every level takes. -/
def sharedOptions : List OptionName :=
  [.url, .token, .config, .pageSize, .requestTimeout, .logLevel, .logFormat]

/-- The options that only one command takes. -/
def commandOptions : CommandName → List OptionName
  | .upgrade => [.cluster, .nodePool, .version, .channelGroup, .ackFor, .dryRun]
  | .gates => [.cluster, .nodePool, .version]
  | .versions | .policies => [.cluster, .nodePool]

/-- The options that a command cannot do without. -/
def requiredOptions : CommandName → List OptionName
  | .upgrade | .gates => [.cluster, .version]
  | .versions | .policies => [.cluster]

/-- The options of a level in the order in which they are checked. -/
def options : Level → List OptionName
  | .program => sharedOptions
  | .command name => commandOptions name ++ sharedOptions

end Level

end ClusterUpgrade
