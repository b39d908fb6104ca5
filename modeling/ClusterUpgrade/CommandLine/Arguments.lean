import ClusterUpgrade.CommandLine.Words
import ClusterUpgrade.Target

/-!
What a command line asks for. An option behind the command wins over one in front of it, and both
win over the environment.
-/

namespace ClusterUpgrade

/-- The variables of the environment, by name. -/
abbrev Environment := String → Option String

inductive Command where
  | upgrade (target : Target) (version : String) (channelGroup consent : Option String)
      (isDryRun : Bool)
  | gates (target : Target) (version : String)
  | versions (target : Target)
  | policies (target : Target)
  deriving Repr, DecidableEq, Inhabited

def Command.target : Command → Target
  | .upgrade target .. => target
  | .gates target _ => target
  | .versions target => target
  | .policies target => target

abbrev OptionValues := List (OptionName × OptionValue)

namespace OptionValues

def text? (values : OptionValues) (option : OptionName) : Option String :=
  match values.lookup option with
  | some (.text value) => some value
  | _ => none

def number? (values : OptionValues) (option : OptionName) : Option Nat :=
  match values.lookup option with
  | some (.number value) => some value
  | _ => none

def format? (values : OptionValues) (option : OptionName) : Option LogFormat :=
  match values.lookup option with
  | some (.format value) => some value
  | _ => none

def has (values : OptionValues) (option : OptionName) : Bool := (values.lookup option).isSome

def target (values : OptionValues) (clusterId : String) : Target :=
  (values.text? .nodePool).elim (.cluster clusterId) (.nodePool clusterId)

/-- The command with its own options, once none is missing that it cannot do without. -/
def command (values : OptionValues) (name : CommandName) : Except UsageError Command := do
  let missing := (Level.requiredOptions name).filter (!values.has ·)
  if !missing.isEmpty then throw (.missingOptions missing)
  let target := values.target ((values.text? .cluster).getD "")
  let version := (values.text? .version).getD ""
  return match name with
    | .upgrade => .upgrade target version (values.text? .channelGroup) (values.text? .ackFor)
        (values.has .dryRun)
    | .gates => .gates target version
    | .versions => .versions target
    | .policies => .policies target

end OptionValues

namespace Level

/-- The values that the environment gives to options, in their order. -/
def inherited (environment : Environment) :
    List OptionName → Except UsageError OptionValues
  | [] => .ok []
  | option :: rest =>
    match option.environmentName?.bind environment with
    | none => inherited environment rest
    | some text => do return (option, ← option.read text) :: (← inherited environment rest)

/-- The options that were given at a level, and those that the environment adds to them. -/
def complete (level : Level) (environment : Environment) (reading : OptionReading) :
    Except UsageError (OptionValues × OptionValues) := do
  let given : OptionValues := (← reading.settle).settled
  return (given, ← inherited environment (level.options.filter (!given.has ·)))

end Level

/-- What a command line asks for, together with the environment. -/
structure Arguments where
  command : Command
  url : Option String := none
  token : Option String := none
  config : Option String := none
  pageSize : Option Nat := none
  requestTimeout : Option Nat := none
  logLevel : String := "info"
  logFormat : LogFormat := .text
  deriving Repr, DecidableEq, Inhabited

namespace Arguments

def ofValues (command : Command) (values : OptionValues) : Arguments where
  command
  url := values.text? .url
  token := values.text? .token
  config := values.text? .config
  pageSize := values.number? .pageSize
  requestTimeout := values.number? .requestTimeout
  logLevel := (values.text? .logLevel).getD "info"
  logFormat := (values.format? .logFormat).getD .text

/-- Reads the words behind the name of the program. The level of the command is completed first. -/
def parse (environment : Environment) (words : List String) : Except UsageError Arguments := do
  let program ← Level.program.read false {} words
  match program.command with
  | none =>
    let (given, added) ← Level.program.complete environment program.options
    throw (if given.isEmpty && added.isEmpty then .nothingGiven else .missingCommand)
  | some (name, rest) =>
    let level : Level := .command name
    let (inner, _) ← level.complete environment (← level.read false {} rest).options
    let command ← inner.command name
    let (outer, added) ← Level.program.complete environment program.options
    return ofValues command (inner ++ outer ++ added)

end Arguments

end ClusterUpgrade
