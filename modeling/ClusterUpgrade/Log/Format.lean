import ClusterUpgrade.Json.Writer
import ClusterUpgrade.Log.Event

/-!
Log events as lines, in one of two formats: for readers, or as JSON objects.
-/

namespace ClusterUpgrade

inductive LogFormat where
  | text
  | json
  deriving Repr, DecidableEq, Inhabited

namespace LogFormat

/-- The formats by name. -/
def ofName? : String → Option LogFormat
  | "text" => some .text
  | "json" => some .json
  | _ => none

/-- Characters that a terminal would obey are shown as escapes. -/
def showChar (c : Char) : List Char :=
  if c = '\x1b' then "\\x1b".toList
  else if c = '\x07' then "\\x07".toList
  else if c = '\x08' then "\\x08".toList
  else if c = '\x0c' then "\\x0c".toList
  else if c = '\x7f' then "\\x7f".toList
  else if 0x80 ≤ c.toNat ∧ c.toNat ≤ 0x9f then
    "\\u".toList ++ [Char.ofNat 0x7b, Text.hexDigit (c.toNat / 16), Text.hexDigit (c.toNat % 16),
      Char.ofNat 0x7d]
  else [c]

/-- A level filled up in front to the width of the longest one. -/
def levelText (level : LogLevel) : String :=
  String.ofList (List.replicate (5 - level.text.length) ' ') ++ level.text

/-- An event as a line, after the time at which it happened. -/
def line (format : LogFormat) (time : String) (event : LogEvent) : String :=
  match format with
  | .text =>
    time ++ " " ++ levelText event.level ++ " "
      ++ String.ofList (event.message.toList.flatMap showChar)
  | .json =>
    Json.write (.object [("timestamp", .string time), ("level", .string event.level.text),
      ("fields", .object [("message", .string event.message)]),
      ("target", .string event.source.path)])

end LogFormat

end ClusterUpgrade
