/-!
What a run reports while it goes on: log events, and text for the terminal.
-/

namespace ClusterUpgrade

inductive LogLevel where
  | trace
  | debug
  | info
  | warn
  | error
  deriving Repr, DecidableEq, Inhabited

namespace LogLevel

def text : LogLevel → String
  | .trace => "TRACE"
  | .debug => "DEBUG"
  | .info => "INFO"
  | .warn => "WARN"
  | .error => "ERROR"

/-- How many levels are at least as urgent. -/
def verbosity : LogLevel → Nat
  | .trace => 5
  | .debug => 4
  | .info => 3
  | .warn => 2
  | .error => 1

end LogLevel

/-- The part of the program that a log event comes from. -/
inductive LogSource where
  | program
  | coordinator
  | gates
  | reader
  | mutator
  | catalog
  | client
  deriving Repr, DecidableEq, Inhabited

/-- The path by which logs and filters name a part of the program. -/
def LogSource.path : LogSource → String
  | .program => "ocup"
  | .coordinator => "ocup::upgrade::coordinator"
  | .gates => "ocup::upgrade::gates"
  | .reader => "ocup::upgrade::reader"
  | .mutator => "ocup::upgrade::mutator"
  | .catalog => "ocup::upgrade::catalog"
  | .client => "ocup::ocm::client"

structure LogEvent where
  level : LogLevel
  source : LogSource
  message : String
  deriving Repr, DecidableEq, Inhabited

inductive Event where
  | log (event : LogEvent)
  | output (text : String)
  deriving Repr, DecidableEq, Inhabited

end ClusterUpgrade
