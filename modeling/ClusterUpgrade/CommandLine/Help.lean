import ClusterUpgrade.CommandLine.Arguments

/-!
What the program says of its commands and options when it is asked for help, as text without styles.
The help on an option tells the value that the environment gives it, unless the option hides values.
-/

namespace ClusterUpgrade

/-! ## Options -/

namespace OptionName

def help : OptionName → String
  | .cluster => "Cluster ID"
  | .nodePool => "Node pool ID (hosted control plane clusters)"
  | .version => "Desired version (e.g. 4.14.1)"
  | .channelGroup => "Channel group of the desired version (stable, fast, candidate, eus)"
  | .ackFor => "Acknowledge version gates for this major.minor (e.g. 4.14)"
  | .dryRun => "Show the reconciliation plan without changing anything"
  | .url => "OCM API gateway URL"
  | .token => "OCM access token"
  | .config => "YAML file with defaults for url, page size and request timeout"
  | .pageSize => "Page size when listing upgrade policies"
  | .requestTimeout => "HTTP request timeout in seconds"
  | .logLevel => "Log level (trace, debug, info, warn, error)"
  | .logFormat => "Log output format"

/-- What stands for the value of an option; a flag has none. -/
def placeholder? : OptionName → Option String
  | .cluster => some "CLUSTER"
  | .nodePool => some "NODE_POOL"
  | .version => some "VERSION"
  | .channelGroup => some "CHANNEL_GROUP"
  | .ackFor => some "X.Y"
  | .dryRun => none
  | .url => some "URL"
  | .token => some "TOKEN"
  | .config => some "CONFIG"
  | .pageSize => some "PAGE_SIZE"
  | .requestTimeout => some "REQUEST_TIMEOUT"
  | .logLevel => some "LOG_LEVEL"
  | .logFormat => some "LOG_FORMAT"

/-- An option with its value, as it is written on a command line. -/
def usage (option : OptionName) : String :=
  "--" ++ option.long ++ option.placeholder?.elim "" fun name => " <" ++ name ++ ">"

/-- Whether help keeps the value of the environment to itself. -/
def hidesValue : OptionName → Bool
  | .token => true
  | _ => false

def default? : OptionName → Option String
  | .logLevel => some "info"
  | .logFormat => some "text"
  | _ => none

/-- The values that an option accepts, where these are few, and what each means. -/
def listedValues : OptionName → List (String × String)
  | .logFormat => [("text", "Human readable lines"), ("json", "One JSON object per line")]
  | _ => []

def listedNames (option : OptionName) : String :=
  String.intercalate ", " (option.listedValues.map Prod.fst)

/-- The variable that stands in for an option, with its value. -/
def environmentNote? (environment : Environment) (option : OptionName) : Option String :=
  option.environmentName?.map fun name =>
    "[env: " ++ name ++ (if option.hidesValue then "" else "=" ++ (environment name).getD "") ++ "]"

/-- The notes behind the help on an option. Long help explains the values that an option accepts. -/
def notes (environment : Environment) (isLong : Bool) (option : OptionName) : List String :=
  (option.environmentNote? environment).toList
    ++ (option.default?.map fun value => "[default: " ++ value ++ "]").toList
    ++ (if isLong || option.listedValues.isEmpty then []
      else ["[possible values: " ++ option.listedNames ++ "]"])

end OptionName

/-! ## Entries -/

namespace Help

/-- A line break with the blanks in front of the help on an option. -/
def lineBreak : String := "\n          "

/-- The text with all its lines but the first behind the blanks of help. -/
def indented (text : String) : String :=
  String.join ((Text.splitOn '\n' text.toList).map String.ofList |>.intersperse lineBreak)

/-- What long help says of the values that an option accepts. -/
def explanation (values : List (String × String)) : String :=
  if values.isEmpty then ""
  else "\n" ++ lineBreak ++ "Possible values:" ++ String.join
    (values.map fun (name, meaning) => lineBreak ++ "- " ++ name ++ ": " ++ meaning)

/-- The help on an option, below its name. -/
def optionText (environment : Environment) (isLong : Bool) (option : OptionName) : String :=
  let notes := option.notes environment isLong
  if isLong then
    let behind := if notes.isEmpty then "" else "\n\n" ++ String.intercalate "\n" notes
    indented (option.help ++ behind) ++ explanation option.listedValues
  else indented (String.intercalate " " (option.help :: notes))

/-- The letter of an option, or blanks of the same width. -/
def letterText (letter : Option Char) : String :=
  letter.elim "      " fun letter => "  -" ++ String.ofList [letter] ++ ", "

def entry (letter : Option Char) (usage text : String) : String :=
  letterText letter ++ usage ++ lineBreak ++ text

/-! ## Levels -/

/-- What options that stand at the same place are sorted by. -/
def sortKey (option : OptionName) : String :=
  option.short?.elim option.long fun letter => String.ofList [letter, '0']

/-- Two lists of options place by place. -/
def interleaved : List OptionName → List OptionName → List OptionName
  | own :: owns, shared :: others =>
    (if sortKey own < sortKey shared then [own, shared] else [shared, own])
      ++ interleaved owns others
  | [], options => options
  | options, [] => options

/-- The options of a level in the order of its help. The shared options take the places behind those
of the commands. -/
def optionsInOrder : Level → List OptionName
  | .program => Level.sharedOptions
  | .command name =>
    let own := Level.commandOptions name
    let taken := CommandName.all.length
    own.take taken ++ interleaved (own.drop taken) Level.sharedOptions

/-- The entries on the options of a level, on help, and on the version of the program. -/
def optionEntries (environment : Environment) (isLong : Bool) (level : Level) : List String :=
  let helpText := if isLong then "Print help (see a summary with '-h')"
    else "Print help (see more with '--help')"
  ((optionsInOrder level).map fun option =>
    entry option.short? option.usage (optionText environment isLong option))
    ++ [entry (some 'h') "--help" helpText]
    ++ (if level = .program then [entry (some 'V') "--version" "Print version"] else [])

def aboutProgram (isLong : Bool) : String :=
  "Upgrade policy orchestration for OpenShift managed clusters"
    ++ if isLong then
      ".\n\nConverges a cluster or node pool onto one scheduled upgrade to the requested version, "
        ++ "acknowledging version gates when told to."
    else ""

def aboutCommand : CommandName → String
  | .upgrade => "Schedule an upgrade, replacing stale policies"
  | .gates => "Show version gates that must be acknowledged before upgrading"
  | .versions => "List versions the target may upgrade to"
  | .policies => "List upgrade policies with their state"

def aboutHelp : String := "Print this message or the help of the given subcommand(s)"

/-- How a level is called. -/
def usage : Level → String
  | .program => "Usage: ocup [OPTIONS] <COMMAND>"
  | .command name => "Usage: ocup " ++ name.text ++ " [OPTIONS]"
    ++ String.join ((Level.requiredOptions name).map (" " ++ ·.usage))

/-- The commands in columns. -/
def commandTable : String :=
  let rows := CommandName.all.map (fun name => (name.text, aboutCommand name))
    ++ [("help", aboutHelp)]
  "Commands:" ++ String.join (rows.map fun (name, about) =>
    "\n  " ++ name ++ String.ofList (List.replicate (10 - name.length) ' ') ++ about)

/-- The help on a level: what it is about, how it is called, and its commands and options. -/
def levelText (environment : Environment) (isLong : Bool) (level : Level) : String :=
  let (about, table) := match level with
    | .program => (aboutProgram isLong, commandTable ++ "\n\n")
    | .command name => (aboutCommand name, "")
  let separator := if isLong then "\n\n" else "\n"
  about ++ "\n\n" ++ usage level ++ "\n\n" ++ table ++ "Options:\n"
    ++ String.intercalate separator (optionEntries environment isLong level)

/-- The help on a topic. -/
def text (environment : Environment) (isLong : Bool) : HelpTopic → String
  | .level level => levelText environment isLong level
  | .help => aboutHelp ++ "\n\nUsage: ocup help [COMMAND]...\n\nArguments:\n"
    ++ "  [COMMAND]...  Print help for the subcommand(s)"

end Help

end ClusterUpgrade
