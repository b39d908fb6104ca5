import ClusterUpgrade.CommandLine.Help

/-!
What the program says about its own command line.
-/

namespace ClusterUpgrade

/-- How the program was built. -/
structure Build where
  version : String := "0.1.0"
  commit : String
  date : String
  deriving Repr, DecidableEq, Inhabited

def Build.text (build : Build) : String :=
  "ocup " ++ build.version ++ " (commit: " ++ build.commit ++ ", build date: " ++ build.date ++ ")"

def NumberFault.text : NumberFault → String
  | .empty => "cannot parse integer from empty string"
  | .invalidDigit => "invalid digit found in string"
  | .tooLarge => "number too large to fit in target type"
  | .tooSmall => "number too small to fit in target type"
  | .outOfRange value => Text.intText value ++ " is not in 0..=" ++ Text.natText (Text.bound32 - 1)

namespace UsageError

/-- The values that an option accepts, where these are few. -/
def listing (option : OptionName) : String :=
  if option.listedValues.isEmpty then ""
  else "\n  [possible values: " ++ option.listedNames ++ "]"

def missingValueText (option : OptionName) : String :=
  "a value is required for '" ++ option.usage ++ "' but none was supplied" ++ listing option

/-- Why a command line is refused. How the program is called, and words that are alike, are told
below that. -/
def reason : UsageError → String
  | .helpWanted .. | .versionWanted | .nothingGiven => ""
  | .missingCommand =>
    "'ocup' requires a subcommand but one was not provided\n  [subcommands: "
      ++ String.intercalate ", " (CommandName.all.map CommandName.text ++ ["help"]) ++ "]"
  | .unknownCommand word => "unrecognized subcommand '" ++ word ++ "'"
  | .unknownArgument argument => "unexpected argument '" ++ argument ++ "' found"
  | .missingValue option | .emptyValue option => missingValueText option
  | .unlistedValue option value =>
    if value.isEmpty then missingValueText option
    else "invalid value '" ++ value ++ "' for '" ++ option.usage ++ "'" ++ listing option
  | .malformedNumber option value fault =>
    "invalid value '" ++ value ++ "' for '" ++ option.usage ++ "': " ++ fault.text
  | .repeatedOption option =>
    "the argument '" ++ option.usage ++ "' cannot be used multiple times"
  | .unwantedValue argument value =>
    "unexpected value '" ++ value ++ "' for '" ++ argument ++ "' found; no more were expected"
  | .missingOptions options =>
    "the following required arguments were not provided:"
      ++ String.join (options.map ("\n  " ++ ·.usage))

/-- What is printed instead of running a command. -/
def message (build : Build) (environment : Environment) : UsageError → String
  | .helpWanted topic isLong => Help.text environment isLong topic
  | .nothingGiven => Help.text environment false (.level .program)
  | .versionWanted => build.text
  | refusal => "error: " ++ refusal.reason

end UsageError

end ClusterUpgrade
