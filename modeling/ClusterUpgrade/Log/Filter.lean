import ClusterUpgrade.Log.Event
import ClusterUpgrade.Log.Pattern
import ClusterUpgrade.Text.Alphanumeric
import ClusterUpgrade.Text.Blank
import ClusterUpgrade.Text.Decimal
import ClusterUpgrade.Text.Split

/-!
Which log events are shown. A filter is a list of directives between commas, such as
`error,ocup::upgrade=debug`; the most specific directive that covers an event decides.
-/

namespace ClusterUpgrade

/-- Why a filter cannot be read. -/
inductive FilterFault where
  | malformedDirective
  | unknownLevel
  | badPattern (fault : PatternFault)
  deriving Repr, DecidableEq, Inhabited

def FilterFault.message : FilterFault → String
  | .malformedDirective => "invalid filter directive"
  | .unknownLevel =>
    "error parsing level filter: expected one of \"off\", \"error\", \"warn\", \"info\", "
      ++ "\"debug\", \"trace\", or a number 0-5"
  | .badPattern fault => "invalid field filter: " ++ fault.message

/-- A field of log events, with a value if a directive asks for one. -/
structure FieldMatch where
  name : String
  value : Option String := none
  deriving Repr, DecidableEq, Inhabited

namespace FieldMatch

/-- A decimal number, perhaps with a point and an exponent. -/
def isUnsignedNumber (text : List Char) : Bool :=
  let isMantissa (c : Char) : Bool := c != 'e' && c != 'E'
  let (whole, fraction) := Text.cutAt '.' (text.takeWhile isMantissa)
  let digits := whole ++ fraction.getD []
  let hasExponent : Bool :=
    match text.dropWhile isMantissa with
    | [] => true
    | _ :: '+' :: digits => !digits.isEmpty && digits.all Text.isDigit
    | _ :: '-' :: digits => !digits.isEmpty && digits.all Text.isDigit
    | _ :: digits => !digits.isEmpty && digits.all Text.isDigit
  !digits.isEmpty && digits.all Text.isDigit && hasExponent

/-- The numbers that are not written with digits, in any case. -/
def numberWords : List String := ["inf", "infinity", "nan"]

def isNumber (text : List Char) : Bool :=
  let unsigned := match text with
    | '+' :: rest => rest
    | '-' :: rest => rest
    | _ => text
  isUnsignedNumber unsigned || numberWords.contains (String.ofList unsigned).toLower

/-- A field's name, and the value that stands after an equals sign: a number or a pattern, as which
`true` and `false` count too. -/
def parse (text : List Char) : Except FilterFault FieldMatch :=
  match Text.cutAt '=' text with
  | (name, none) => .ok { name := String.ofList name }
  | (name, some rest) =>
    let value := (Text.cutAt '=' rest).1
    let read : FieldMatch := { name := String.ofList name, value := some (String.ofList value) }
    if isNumber value then .ok read
    else (Pattern.fault? value).elim (.ok read) fun fault => .error (.badPattern fault)

end FieldMatch

/-- A directive covers the events of the parts of the program whose paths start with its target. -/
structure FilterDirective where
  /-- The verbosity up to which events are shown; zero shows nothing. -/
  verbosity : Nat := LogLevel.trace.verbosity
  target : Option String := none
  /-- The span that an event must happen in. -/
  span : Option String := none
  /-- The fields that an event must have. -/
  fields : List FieldMatch := []
  deriving Repr, DecidableEq, Inhabited

namespace FilterDirective

/-! ## Reading -/

/-- The names of levels by their verbosity. -/
def levelNames : List String := ["off", "error", "warn", "info", "debug", "trace"]

/-- The verbosity of a level that is given by its name in any case, or by its number. -/
def level? (text : List Char) : Option Nat :=
  match Text.takeNumber? ((Text.dropPrefix? ['+'] text).getD text) with
  | some (number, []) => if number < levelNames.length then some number else none
  | _ => levelNames.findIdx? (· == (String.ofList text).toLower)

/-- A level, where leaving it out means all levels. -/
def levelOrAll (text : List Char) : Except FilterFault Nat :=
  if text.isEmpty then .ok LogLevel.trace.verbosity
  else (level? text).elim (.error .unknownLevel) .ok

/-- The part of a directive that is being read; `start` is where it began. -/
inductive Part where
  | nothing
  | targetOrLevel (start : Nat)
  | span (start : Nat)
  | field (start : Nat)
  | closing
  | afterSpan
  | level (start : Nat)

/-- Characters other than letters and numerals that a directive may start with. -/
def startMarks : List Char := ['-', ':', '_']

/-- Reads one character of a directive. `slice` gives the text between two places. -/
def readChar (slice : Nat → Nat → List Char) (place : Nat) (c : Char) :
    Part × FilterDirective → Except FilterFault (Part × FilterDirective)
  | (.nothing, directive) =>
    if c = '[' then .ok (.span (place + 1), directive)
    else if startMarks.contains c || Text.isAlphanumeric c then
      .ok (.targetOrLevel place, directive)
    else .error .malformedDirective
  | (.targetOrLevel start, directive) =>
    let target := some (String.ofList (slice start place))
    if c = '=' then .ok (.level (place + 1), { directive with target })
    else if c = '[' then .ok (.span (place + 1), { directive with target })
    else .ok (.targetOrLevel start, directive)
  | (.span start, directive) =>
    let name := String.ofList (slice start place)
    if c = ']' then .ok (.afterSpan, { directive with span := some name })
    else if c = Char.ofNat 0x7b then
      .ok (.field (place + 1), { directive with span := if name.isEmpty then none else some name })
    else .ok (.span start, directive)
  | (.field start, directive) =>
    if c != Char.ofNat 0x7d then .ok (.field start, directive)
    else
      let text := slice start place
      if text.isEmpty then .error .malformedDirective
      else (FieldMatch.parse text).map fun field =>
        (.closing, { directive with fields := directive.fields ++ [field] })
  | (.closing, directive) =>
    if c = ']' then .ok (.afterSpan, directive) else .error .malformedDirective
  | (.afterSpan, directive) =>
    if c = '=' then .ok (.level (place + 1), directive) else .error .malformedDirective
  | (.level start, directive) => .ok (.level start, directive)

def readChars (slice : Nat → Nat → List Char) (place : Nat) :
    List Char → Part × FilterDirective → Except FilterFault (Part × FilterDirective)
  | [], state => .ok state
  | c :: rest, state => do
    let state ← readChar slice place c state
    readChars slice (place + 1) rest state

/-- Reads a directive. Blank characters around it do not count when parts are told apart, but places
are counted in the whole text. -/
def parse (text : List Char) : Except FilterFault FilterDirective := do
  let slice (start stop : Nat) : List Char := (text.drop start).take (stop - start)
  match ← readChars slice 0 (Text.trimChars text) (.nothing, {}) with
  | (.targetOrLevel start, directive) =>
    let rest := text.drop start
    match level? rest with
    | some verbosity => return { directive with verbosity }
    | none => return { directive with target := some (String.ofList rest) }
  | (.level start, directive) =>
    return { directive with verbosity := ← levelOrAll (text.drop start) }
  | (.afterSpan, directive) => return directive
  | _ => throw .malformedDirective

/-! ## Covering -/

/-- An event happens in no span and has a message as its only field. -/
def covers (directive : FilterDirective) (event : LogEvent) : Bool :=
  directive.target.all (·.toList.isPrefixOf event.source.path.toList)
    && directive.span.isNone
    && directive.fields.all fun field => field.name == "message" && field.value.isNone

/-- How specific a directive is: by the length of its target, then by its fields. -/
def weight (directive : FilterDirective) : Nat × Nat :=
  (directive.target.elim 0 (·.utf8ByteSize + 1), directive.fields.length)

/-- The more specific one of two directives, the second one if they are alike. -/
def moreSpecific (first second : FilterDirective) : FilterDirective :=
  if second.weight.1 < first.weight.1
      ∨ second.weight.1 = first.weight.1 ∧ second.weight.2 < first.weight.2 then first
  else second

end FilterDirective

structure LogFilter where
  directives : List FilterDirective
  deriving Repr, Inhabited

namespace LogFilter

/-- Reads a filter; one without directives shows nothing. -/
def parse (text : String) : Except FilterFault LogFilter := do
  let pieces := (Text.splitOn ',' text.toList).filter (!·.isEmpty)
  return { directives := ← pieces.mapM FilterDirective.parse }

/-- The directive that decides on an event. -/
def deciding? (filter : LogFilter) (event : LogEvent) : Option FilterDirective :=
  match filter.directives.filter (·.covers event) with
  | [] => none
  | first :: rest => some (rest.foldl FilterDirective.moreSpecific first)

/-- An event that no directive covers is not shown. -/
def shows (filter : LogFilter) (event : LogEvent) : Bool :=
  (filter.deciding? event).any (event.level.verbosity ≤ ·.verbosity)

end LogFilter

end ClusterUpgrade
