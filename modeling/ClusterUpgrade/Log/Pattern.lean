import ClusterUpgrade.Text.Alphanumeric
import ClusterUpgrade.Text.Blank
import ClusterUpgrade.Text.Hexadecimal
import ClusterUpgrade.Text.Split

/-!
Patterns for the values of log fields: regular expressions with groups, sets in brackets,
repetitions and flags. Events have no fields with values, so all that matters of a pattern is
whether it is one. Patterns know the letters, digits and cases of ASCII only: a class such as `\d`,
and the flag that ignores case, need the flag for Unicode to be turned off.
-/

namespace ClusterUpgrade

/-- Why a text is no pattern. -/
inductive PatternFault where
  | malformed
  /-- It asks for the boundaries of words of any script. -/
  | wordBoundary
  deriving Repr, DecidableEq, Inhabited

def PatternFault.message : PatternFault → String
  | .malformed => "error building NFA"
  | .wordBoundary =>
    "unsupported regex feature for DFAs: cannot build DFAs for regexes with Unicode word "
      ++ "boundaries; switch to ASCII word boundaries, or heuristically enable Unicode word "
      ++ "boundaries or use a different regex engine"

namespace Pattern

/-! ## Flags -/

/-- The flags that decide what may be written. -/
structure Flags where
  /-- Blanks and comments count for nothing. -/
  isVerbose : Bool := false
  ignoresCase : Bool := false
  isUnicode : Bool := true
  deriving Repr, DecidableEq, Inhabited

/-- The letters of the flags, and the dash in front of those that are turned off. -/
def flagMarks : List Char := ['i', 'm', 's', 'U', 'u', 'R', 'x', '-']

namespace Flags

/-- Turns the written flags on, and those after a dash off. Each is written once. -/
def switched? (flags : Flags) (written : List Char) : Option Flags :=
  if written.all flagMarks.contains && decide written.Nodup && written.getLast? != some '-' then
    let (on, off) := Text.cutAt '-' written
    let choose (mark : Char) (before : Bool) : Bool :=
      on.contains mark || before && !(off.getD []).contains mark
    some {
      isVerbose := choose 'x' flags.isVerbose
      ignoresCase := choose 'i' flags.ignoresCase
      isUnicode := choose 'u' flags.isUnicode }
  else none

/-- Whether a character may stand for itself; `isByte` if it is written as the code of a byte. -/
def allows (flags : Flags) (c : Char) (isByte : Bool) : Bool :=
  if flags.isUnicode then !flags.ignoresCase
  else c.toNat < 0x80 || !isByte && !flags.ignoresCase

/-- Whether a character may stand in a set. -/
def allowsInSet (flags : Flags) (c : Char) : Bool :=
  if flags.isUnicode then !flags.ignoresCase else c.toNat < 0x80

/-- What follows blanks and comments; a comment ends with its line. -/
def skipBlanks (inComment : Bool) : List Char → List Char
  | [] => []
  | c :: rest =>
    if inComment then skipBlanks (c != '\n') rest
    else if Text.isBlank c then skipBlanks false rest
    else if c = '#' then skipBlanks true rest
    else c :: rest

def skip (flags : Flags) (text : List Char) : List Char :=
  if flags.isVerbose then skipBlanks false text else text

/-- The character after a dash that decides whether the dash makes a range; the mark of a comment is
passed over, the comment is not. -/
def afterDash? (flags : Flags) (text : List Char) : Option Char :=
  if flags.isVerbose then
    match text.dropWhile Text.isBlank with
    | '#' :: comment => (comment.dropWhile Text.isBlank).head?
    | rest => rest.head?
  else text.head?

end Flags

/-! ## Items -/

/-- What stands for one character or for a place between two. -/
inductive Item where
  /-- A character; `isByte` if it is written as the code of a byte. -/
  | char (c : Char) (isByte : Bool)
  /-- One of the classes `\d`, `\s` and `\w`. -/
  | charClass
  /-- The start or the end of the text. -/
  | textEdge
  | wordEdge
  deriving Repr, DecidableEq, Inhabited

/-- How many hexadecimal digits follow a letter that introduces the code of a character. -/
def codeLength? : Char → Option Nat
  | 'x' => some 2
  | 'u' => some 4
  | 'U' => some 8
  | _ => none

/-- The control characters that have letters. -/
def controlCode? : Char → Option Nat
  | 'a' => some 0x07
  | 't' => some 0x09
  | 'n' => some 0x0a
  | 'v' => some 0x0b
  | 'f' => some 0x0c
  | 'r' => some 0x0d
  | _ => none

/-- Reads so many hexadecimal digits. -/
def readCode? (flags : Flags) : Nat → Nat → List Char → Option (Nat × List Char)
  | 0, code, text => some (code, text)
  | count + 1, code, text =>
    match flags.skip text with
    | [] => none
    | c :: rest =>
      (Text.hexValue? c).bind fun value => readCode? flags count (16 * code + value) rest

/-- Reads what follows a backslash. -/
def readEscape? (flags : Flags) : List Char → Option (Item × List Char)
  | [] => none
  | c :: rest =>
    match codeLength? c, controlCode? c with
    | some length, _ => do
      let (code, rest) ← readCode? flags length 0 rest
      if code.isValidChar then some (.char (Char.ofNat code) (length == 2), rest) else none
    | none, some code => some (.char (Char.ofNat code) false, rest)
    | none, none =>
      if ['d', 's', 'w'].contains c then if flags.isUnicode then none else some (.charClass, rest)
      else if ['A', 'z'].contains c then some (.textEdge, rest)
      else if ['b', 'B', '<', '>'].contains c then some (.wordEdge, rest)
      else if c.toNat < 0x80 && !c.isAlphanum then some (.char c false, rest)
      else none

/-- Reads a character that stands for itself or an escape. -/
def readItem? (flags : Flags) : List Char → Option (Item × List Char)
  | [] => none
  | '\\' :: rest => readEscape? flags rest
  | c :: rest => some (.char c false, rest)

/-! ## Nesting -/

/-- A pattern is nested no deeper than this. -/
def greatestDepth : Nat := 250

/-- Things side by side: how many, and how deep the deepest is nested. -/
structure Row where
  count : Nat := 0
  depth : Nat := 0
  deriving Repr, DecidableEq, Inhabited

def Row.add (row : Row) (depth : Nat) : Row :=
  { count := row.count + 1, depth := max row.depth depth }

/-- Several things side by side are a level of their own. -/
def Row.nesting (row : Row) : Nat := if row.count ≤ 1 then row.depth else row.depth + 1

/-- A group that is being read; the whole pattern is one as well. -/
structure Group where
  flags : Flags := {}
  /-- The alternatives in front of the last bar. -/
  alternatives : Row := {}
  /-- The items of the alternative that is being read. -/
  items : Row := {}
  /-- The nesting of the item in front, if it can be repeated. -/
  last : Option Nat := none
  deriving Repr, DecidableEq, Inhabited

namespace Group

def add (group : Group) (depth : Nat) : Group :=
  { group with items := group.items.add depth, last := some depth }

/-- Flags that hold for the rest of the group stand beside its items. -/
def setFlags (group : Group) (flags : Flags) : Group :=
  { group with flags, items := group.items.add 0, last := none }

def repeatLast? (group : Group) : Option Group :=
  group.last.map fun depth =>
    { group with
      items := { group.items with depth := max group.items.depth (depth + 1) }
      last := some (depth + 1) }

def startAlternative (group : Group) : Group :=
  { group with
    alternatives := group.alternatives.add group.items.nesting, items := {}, last := none }

def nesting (group : Group) : Nat := (group.alternatives.add group.items.nesting).nesting

end Group

/-- A set in brackets that is being read. -/
structure Brackets where
  /-- The nesting of what stands in front of an operator. -/
  left : Option Nat := none
  items : Row := {}
  /-- Nothing but dashes has been read, so a dash stands for itself. -/
  atStart : Bool := true
  deriving Repr, DecidableEq, Inhabited

namespace Brackets

def nesting (set : Brackets) : Nat :=
  set.left.elim set.items.nesting fun left => max left set.items.nesting + 1

def add (set : Brackets) (depth : Nat) : Brackets :=
  { set with items := set.items.add depth, atStart := false }

def addDash (set : Brackets) : Brackets := { set with items := set.items.add 0 }

/-- An operator stands between all that is in front and what follows. -/
def startOperand (set : Brackets) : Brackets := { left := some set.nesting, atStart := false }

end Brackets

/-! ## Reading -/

/-- How far a pattern has been read. -/
structure Reading where
  group : Group := {}
  /-- The groups around the innermost one, from the inside out. -/
  enclosing : List Group := []
  /-- The sets that are open, from the inside out. -/
  sets : List Brackets := []
  /-- The names of groups. -/
  names : List (List Char) := []
  hasWordBoundary : Bool := false
  deriving Repr, DecidableEq, Inhabited

namespace Reading

def flags (reading : Reading) : Flags := reading.group.flags

def add (reading : Reading) (depth : Nat) : Reading :=
  { reading with group := reading.group.add depth }

/-- Enters a group in which these flags hold. -/
def enter (reading : Reading) (flags : Flags) : Reading :=
  { reading with group := { flags }, enclosing := reading.group :: reading.enclosing }

/-- Leaves a group; there has to be one around it. -/
def leave? (reading : Reading) : Option Reading :=
  match reading.enclosing with
  | [] => none
  | outer :: enclosing =>
    some { reading with group := outer.add (reading.group.nesting + 1), enclosing }

/-- Names of groups start with a letter or an underscore. -/
def isGroupName : List Char → Bool
  | [] => false
  | c :: rest =>
    (c == '_' || Text.isAlphabetic c)
      && rest.all fun d => ['_', '.', '[', ']'].contains d || Text.isAlphanumeric d

/-- Reads what follows a parenthesis that opens: flags, the name of a group, or its first item. -/
def openGroup? (reading : Reading) (text : List Char) : Option (Reading × List Char) :=
  let named (text : List Char) : Option (Reading × List Char) :=
    match Text.cutAt '>' text with
    | (name, some rest) =>
      if isGroupName name && !reading.names.contains name then
        some ({ reading with names := name :: reading.names }.enter reading.flags, rest)
      else none
    | _ => none
  match reading.flags.skip text with
  | '?' :: 'P' :: '<' :: rest => named rest
  | '?' :: '<' :: rest => named rest
  | '?' :: rest => do
    let isFlag (c : Char) : Bool := c != ':' && c != ')'
    let written := rest.takeWhile isFlag
    let flags ← reading.flags.switched? written
    match rest.dropWhile isFlag with
    | ':' :: rest => some (reading.enter flags, rest)
    | ')' :: rest =>
      if written.isEmpty then none
      else some ({ reading with group := reading.group.setFlags flags }, rest)
    | _ => none
  | rest => some (reading.enter reading.flags, rest)

/-- Reads what follows a bracket that opens. Without Unicode no set is the opposite of another. -/
def openSet? (reading : Reading) (text : List Char) : Option (Reading × List Char) :=
  let opened := { reading with sets := {} :: reading.sets }
  match reading.flags.skip text with
  | '^' :: rest => if reading.flags.isUnicode then some (opened, rest) else none
  | rest => some (opened, rest)

/-- Reads the next item outside of sets. -/
def stepOutside? (reading : Reading) (c : Char) (rest : List Char) :
    Option (Reading × List Char) :=
  if c = '(' then reading.openGroup? rest
  else if c = ')' then reading.leave?.map (·, rest)
  else if c = '|' then some ({ reading with group := reading.group.startAlternative }, rest)
  else if c = '[' then reading.openSet? rest
  else if ['?', '*', '+'].contains c then
    reading.group.repeatLast?.map fun group =>
      ({ reading with group }, if rest.head? = some '?' then rest.tail else rest)
  else if c = '\x7b' then none
  else if c = '^' || c = '$' then some (reading.add 0, rest)
  else if c = '.' then if reading.flags.isUnicode then some (reading.add 0, rest) else none
  else do
    let (item, rest) ← readItem? reading.flags (c :: rest)
    match item with
    | .char c isByte => if reading.flags.allows c isByte then some (reading.add 0, rest) else none
    | .wordEdge =>
      some ({ reading.add 0 with
        hasWordBoundary := reading.hasWordBoundary || reading.flags.isUnicode }, rest)
    | _ => some (reading.add 0, rest)

/-- The sets that have names. -/
def setNames : List String :=
  ["alnum", "alpha", "ascii", "blank", "cntrl", "digit", "graph", "lower", "print", "punct",
    "space", "upper", "word", "xdigit"]

/-- What follows a set that is named between colons, and whether its opposite is meant. -/
def namedSet? (text : List Char) : Option (Bool × List Char) := do
  let text ← Text.dropPrefix? [':'] text
  let (isOpposite, text) := match text with
    | '^' :: rest => (true, rest)
    | _ => (false, text)
  let (name, after) := Text.cutAt ':' text
  let rest ← Text.dropPrefix? [']'] (← after)
  if setNames.contains (String.ofList name) then some (isOpposite, rest) else none

/-- What follows a member of a set: one item, or two ends of a range with a dash between them. -/
def afterMember? (flags : Flags) (text : List Char) : Option (List Char) := do
  let (first, rest) ← readItem? flags text
  let rest := flags.skip rest
  let single : Option (List Char) :=
    match first with
    | .char c _ => if flags.allowsInSet c then some rest else none
    | .charClass => some rest
    | _ => none
  match rest with
  | '-' :: after =>
    if [some ']', some '-'].contains (flags.afterDash? after) then single
    else
      let (last, rest) ← readItem? flags (flags.skip after)
      match first, last with
      | .char low _, .char high _ =>
        if flags.allowsInSet low && flags.allowsInSet high && low ≤ high then some rest else none
      | _, _ => none
  | _ => single

/-- Reads the next member of the innermost set, an operator between members, or the bracket that
closes the set. -/
def stepInside? (reading : Reading) (set : Brackets) (outer : List Brackets) (c : Char)
    (rest : List Char) : Option (Reading × List Char) :=
  let replaced (set : Brackets) : Reading := { reading with sets := set :: outer }
  let plain (set : Brackets) : Option (Reading × List Char) :=
    if reading.flags.allowsInSet c then some (replaced set, rest) else none
  if set.atStart && c = '-' then plain set.addDash
  else if set.atStart && c = ']' && set.items.count = 0 then plain (set.add 0)
  else if c = ']' then
    match outer with
    | [] => some ({ reading with sets := [] }.add (set.nesting + 1), rest)
    | around :: more =>
      some ({ reading with sets := around.add (set.nesting + 1) :: more }, rest)
  else if ['&', '-', '~'].contains c && rest.head? = some c then
    some (replaced set.startOperand, rest.tail)
  else if c = '[' then
    match namedSet? rest with
    | some (isOpposite, rest) =>
      let isAllowed := if reading.flags.isUnicode then !reading.flags.ignoresCase else !isOpposite
      if isAllowed then some (replaced (set.add 0), rest) else none
    | none => reading.openSet? rest
  else (afterMember? reading.flags (c :: rest)).map (replaced (set.add 0), ·)

def step? (reading : Reading) (c : Char) (rest : List Char) : Option (Reading × List Char) :=
  match reading.sets with
  | [] => reading.stepOutside? c rest
  | set :: outer => reading.stepInside? set outer c rest

/-- Reads a text to its end in so many steps. -/
def run? : Nat → Reading → List Char → Option Reading
  | 0, _, _ => none
  | steps + 1, reading, text =>
    match reading.flags.skip text with
    | [] => some reading
    | c :: rest => (reading.step? c rest).bind fun (reading, rest) => run? steps reading rest

/-- All groups and sets are closed. -/
def isComplete (reading : Reading) : Bool :=
  reading.enclosing.isEmpty && reading.sets.isEmpty && reading.group.nesting ≤ greatestDepth

end Reading

/-- Why a text is no pattern, if it is none. Each step takes a character at least. -/
def fault? (text : List Char) : Option PatternFault :=
  match Reading.run? (text.length + 1) {} text with
  | none => some .malformed
  | some reading =>
    if !reading.isComplete then some .malformed
    else if reading.hasWordBoundary then some .wordBoundary
    else none

end Pattern

end ClusterUpgrade
