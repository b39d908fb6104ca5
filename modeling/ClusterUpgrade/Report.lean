import ClusterUpgrade.Schedule.Catalog
import ClusterUpgrade.Schedule.Reconcile
import ClusterUpgrade.Terminal.Style

/-!
What the operator is shown on the terminal, as complete lines.
-/

namespace ClusterUpgrade

namespace Report

variable (isStyled : Bool)

/-- Lines with their ends. -/
def lines (texts : List String) : String := String.join (texts.map (· ++ "\n"))

def checkMark : String := paint isStyled .green "✓"

def nextRunText (nextRun : Option Instant) : String := nextRun.elim "-" Instant.shortText

def stateStyle : PolicyState → Style
  | .started | .delayed => .yellow
  | .pending | .scheduled => .cyan
  | .completed => .green
  | .cancelled | .unknown => .dimmed

/-! ## Policies -/

def policyRow (upgrade : ExistingUpgrade) : String :=
  "  " ++ padEnd 36 upgrade.id ++ " " ++ padEnd 12 upgrade.version ++ " "
    ++ paint isStyled (stateStyle upgrade.state) upgrade.state.text 10 ++ " "
    ++ nextRunText upgrade.nextRun

def policyHeading : String :=
  "  " ++ paint isStyled .bold "ID" 36 ++ " " ++ paint isStyled .bold "VERSION" 12 ++ " "
    ++ paint isStyled .bold "STATE" 10 ++ " " ++ paint isStyled .bold "NEXT RUN"

/-- The policies of a target with their states. -/
def policies (target : Target) (upgrades : List ExistingUpgrade) : String :=
  lines <|
    ["", paint isStyled .bold ("Upgrade policies of " ++ target.text ++ ":"),
      String.ofList (List.replicate 60 '-')]
    ++ (if upgrades.isEmpty then ["  No upgrade policies"]
      else policyHeading isStyled :: upgrades.map (policyRow isStyled))

/-! ## Versions -/

/-- One row for each candidate; the last one is marked. -/
def candidateRows : List VersionRecord → List String
  | [] => []
  | record :: rest =>
    let label := if rest.isEmpty then "(latest)" else ""
    ("  " ++ padEnd 12 record.shownId ++ " " ++ paint isStyled .dimmed label) :: candidateRows rest

/-- The versions that the installed one may move to, oldest first. -/
def versions (installed : VersionRecord) (candidates : List VersionRecord) : String :=
  lines <|
    ["", paint isStyled .bold "Installed version:" ++ " " ++ installed.shownId]
    ++ (if candidates.isEmpty then ["  " ++ checkMark isStyled ++ " No upgrades available"]
      else paint isStyled .bold "Available upgrades:"
        :: candidateRows isStyled (Release.oldestFirst VersionRecord.shownId candidates))

/-! ## Plans and outcomes -/

def keepRow (upgrade : ExistingUpgrade) : String :=
  "  " ++ checkMark isStyled ++ " Keep policy " ++ upgrade.id ++ " (" ++ upgrade.version ++ ", "
    ++ upgrade.state.text ++ ")"

def cancelRow (upgrade : ExistingUpgrade) : String :=
  "  " ++ paint isStyled .red "✗" ++ " Cancel policy " ++ upgrade.id ++ " (" ++ upgrade.version
    ++ ", " ++ nextRunText upgrade.nextRun ++ ")"

/-- A plan that was made without changing anything. -/
def plan (target : Target) (desired : DesiredVersion) (plan : Plan) : String :=
  lines <|
    ["", paint isStyled .boldCyan
      ("Upgrade plan for " ++ target.text ++ " to " ++ desired.rawId ++ ":")]
    ++ plan.keep.map (keepRow isStyled) ++ plan.cancel.map (cancelRow isStyled)
    ++ [if plan.isSatisfied then "  Upgrade to " ++ desired.rawId ++ " is already scheduled"
      else "  " ++ paint isStyled .green "+" ++ " Schedule manual upgrade to " ++ desired.rawId,
      "", paint isStyled .yellow "Dry run: no changes were made."]

def outcomeRows (target : Target) (desired : DesiredVersion) : ReconcileOutcome → List String
  | .alreadyScheduled kept cancelled =>
    cancelled.map ("  Cancelled upgrade policy " ++ ·)
    ++ [checkMark isStyled ++ " Upgrade of " ++ target.text ++ " to " ++ desired.rawId
      ++ " is already scheduled (policy " ++ String.intercalate ", " (kept.map (·.id)) ++ ")"]
  | .scheduled policy cancelled acknowledged =>
    cancelled.map ("  Cancelled upgrade policy " ++ ·)
    ++ acknowledged.map ("  Acknowledged version gate " ++ ·)
    ++ [checkMark isStyled ++ " Scheduled upgrade of " ++ target.text ++ " to "
      ++ paint isStyled .bold policy.version ++ " (policy " ++ policy.id ++ ", next run "
      ++ nextRunText policy.nextRun ++ ")"]

/-- What a pass over a target has done. -/
def outcome (target : Target) (desired : DesiredVersion) (outcome : ReconcileOutcome) : String :=
  lines ("" :: outcomeRows isStyled target desired outcome)

def upToDate (target : Target) (desired : DesiredVersion) : String :=
  lines [checkMark isStyled ++ " " ++ target.text ++ " already runs "
    ++ paint isStyled .bold desired.rawId]

/-! ## Gates -/

/-- The token that the operator is told to consent with. -/
def suggestedToken (desired : DesiredVersion) : String := desired.gatePrefix

/-- The description of the gates that need consent, if there are any. -/
def gates (target : Target) (desired : DesiredVersion) : Option String → String
  | none =>
    lines [checkMark isStyled ++ " No version gates to acknowledge for " ++ target.text ++ " to "
      ++ desired.rawId]
  | some description =>
    lines [Text.trimEnd description, "",
      "Re-run upgrade with " ++ paint isStyled .bold ("--ack-for " ++ suggestedToken desired)
        ++ " to acknowledge."]

end Report

end ClusterUpgrade
