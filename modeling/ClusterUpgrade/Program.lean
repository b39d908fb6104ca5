import ClusterUpgrade.CommandLine.Usage
import ClusterUpgrade.Config
import ClusterUpgrade.Http.Client
import ClusterUpgrade.Log.Filter
import ClusterUpgrade.Report

/-!
The program: its commands as dialogues with the remote side, and a run from its command line to its
exit code.
-/

namespace ClusterUpgrade

/-! ## Commands -/

namespace Command

variable (isStyled : Bool)

/-- Asks for the version that a target runs. -/
def installedVersion (target : Target) : Procedure String :=
  Procedure.call "get current version" target.text (.currentVersion target)

/-- Shows what a pass would do, and the gates that it would meet. -/
def previewUpgrade (pageSize : Nat) (request : UpgradeRequest) (now : Instant) :
    Procedure Unit := do
  let target := request.target
  let desired := request.desired
  let plan ← previewPlan pageSize target desired now
  Procedure.output (Report.plan isStyled target desired plan)
  if !plan.isSatisfied then
    let description ← explainGates target desired
    if description.isSome then
      Procedure.output (Report.gates isStyled target desired description)

/-- Checks a request against the catalog, then shows a plan or makes a pass. -/
def runUpgrade (pageSize : Nat) (request : UpgradeRequest) (isDryRun : Bool) (now : Instant) :
    Procedure Unit := do
  let target := request.target
  let desired := request.desired
  let _ ← Procedure.ofExcept (Release.supportedVersion desired.rawId)
  let current ← installedVersion target
  match ← validateUpgrade current desired with
  | .upToDate => Procedure.output (Report.upToDate isStyled target desired)
  | .available _ =>
    if isDryRun then previewUpgrade isStyled pageSize request now
    else
      let outcome ← reconcile pageSize request now
      Procedure.output (Report.outcome isStyled target desired outcome)

def showGates (target : Target) (desired : DesiredVersion) : Procedure Unit := do
  let description ← explainGates target desired
  Procedure.output (Report.gates isStyled target desired description)

def showVersions (target : Target) : Procedure Unit := do
  let current ← installedVersion target
  let catalog ← UpgradeCatalog.ofInstalled current
  let candidates ← catalog.candidates
  Procedure.output (Report.versions isStyled catalog.installed candidates)

def showPolicies (pageSize : Nat) (target : Target) : Procedure Unit := do
  let upgrades ← Listing.upgrades target pageSize
  Procedure.output (Report.policies isStyled target upgrades)

/-- What a command does. A version is read before the first call. -/
def run (pageSize : Nat) (now : Instant) : Command → Procedure Unit
  | .upgrade target version channelGroup consent isDryRun => do
    let desired ← Procedure.ofExcept (DesiredVersion.parse version channelGroup)
    runUpgrade isStyled pageSize { target, desired, consent } isDryRun now
  | .gates target version => do
    let desired ← Procedure.ofExcept (DesiredVersion.parse version none)
    showGates isStyled target desired
  | .versions target => showVersions isStyled target
  | .policies target => showPolicies isStyled pageSize target

end Command

/-! ## Runs -/

/-- A run talks to a server and ends with an exit code; each request may be broken off. -/
abbrev Run := Dialogue Http.Request (Dialogue.Interruptible Http.Answer) Nat

namespace Run

/-- Ends with a message about what went wrong. -/
def fail {Question : Type} {Answer : Question → Type} (message : String) :
    Dialogue Question Answer Nat := do
  Dialogue.log .error .program message
  return 1

/-- Ends a run that was broken off. -/
def interrupted : Run := do
  Dialogue.log .warn .program "Interrupted; changes already applied remotely are kept"
  fail "interrupted"

/-- The exchanges of a command with the server of its configuration. -/
def exchanges (isStyled : Bool) (config : Config) (now : Instant) : Http.HttpDialogue Nat := do
  let client := Http.Client.ofAddress config.apiUrl config.token
  match ← client.connect (config.command.run isStyled config.pageSize now).run with
  | .ok _ => return 0
  | .error error => fail error.message

def announcement (build : Build) : String :=
  "Starting ocup v" ++ build.version ++ " (commit: " ++ build.commit ++ ", build: " ++ build.date
    ++ ")"

/-- A run checks its configuration before it talks to the server. -/
def ofConfig (isStyled : Bool) (build : Build) (config : Config) (now : Instant) : Run := do
  Dialogue.log .debug .program (announcement build)
  match config.validate with
  | .ok _ => (exchanges isStyled config now).interruptible interrupted
  | .error error => fail error.message

end Run

/-! ## Starting -/

/-- Whatever the program finds around it when it starts. -/
structure Surroundings where
  environment : Environment
  files : Files
  build : Build
  now : Instant
  /-- Whether results go to a terminal. -/
  isTerminal : Bool

/-- A run with the way in which its log is shown. -/
structure LoggedRun where
  filter : LogFilter
  format : LogFormat
  /-- How many seconds a request may take. -/
  requestTimeout : Nat
  run : Run

/-- The line that shows an event in the log, unless the filter hides it. -/
def LoggedRun.line? (logged : LoggedRun) (time : String) (event : LogEvent) : Option String :=
  if logged.filter.shows event then some (logged.format.line time event) else none

inductive Startup where
  /-- The command line is refused, or asks for information; the text is shown instead of a run. -/
  | refused (error : UsageError) (text : String)
  /-- Something is wrong before there is a log. -/
  | failed (message : String)
  | ready (logged : LoggedRun)

namespace Startup

/-- The environment variable that holds a log filter. -/
def filterVariable : String := "RUST_LOG"

/-- The filter of the environment if it can be read, otherwise the given one. -/
def filterOf (environment : Environment) (logLevel : String) : Except FilterFault LogFilter :=
  match (environment filterVariable).map LogFilter.parse with
  | some (.ok filter) => .ok filter
  | _ => LogFilter.parse logLevel

/-- Starts with the words behind the name of the program. -/
def ofWords (surroundings : Surroundings) (words : List String) : Startup :=
  match Arguments.parse surroundings.environment words with
  | .error error => .refused error (error.message surroundings.build surroundings.environment)
  | .ok arguments =>
    match Config.ofArguments surroundings.files arguments with
    | .error error => .failed error.message
    | .ok config =>
      match filterOf surroundings.environment config.logLevel with
      | .error fault =>
        .failed ("Failed to initialize logging: Failed to initialize log filter: " ++ fault.message)
      | .ok filter =>
        let styled := isStyled surroundings.environment surroundings.isTerminal
        .ready
          { filter
            format := config.logFormat
            requestTimeout := config.requestTimeout
            run := Run.ofConfig styled surroundings.build config surroundings.now }

end Startup

end ClusterUpgrade
