import ClusterUpgrade.Text.Hexadecimal
import ClusterUpgrade.Yaml.Cursor

/-!
Scalars of YAML texts in their five styles. Each reader starts at the first character of a scalar
and ends behind the last one; it is `none` if the text is malformed.
-/

namespace ClusterUpgrade.Yaml

open Text

inductive ScalarStyle where
  | plain
  | singleQuoted
  | doubleQuoted
  | literal
  | folded
  deriving Repr, DecidableEq, Inhabited

/-! ## Plain scalars -/

def isFlowIndicator (c : Char) : Bool := ",[]\x7b\x7d".toList.contains c

/-- The characters of a plain scalar up to a blank, a line break or an indicator that ends it. -/
def plainRun? (isFlow : Bool) : List Char → Option (List Char)
  | [] => some []
  | c :: rest =>
    if isSpacing c then some []
    else if c == ':' && isFlow && rest.head?.any (fun d => isFlowIndicator d || d == '?') then none
    else if c == ':' && rest.head?.all isSpacing then some []
    else if isFlow && isFlowIndicator c then some []
    else (plainRun? isFlow rest).map (c :: ·)

/-- The lines of a plain scalar. `pending` is the gap behind the text read so far; it becomes part
of the text only if more text follows. The flag tells whether a line break was passed at the end. -/
def plainLines? (isFlow : Bool) (indent : Nat) :
    (fuel : Nat) → (text : List Char) → (pending : Gap) → Cursor →
      Option (List Char × Bool × Cursor)
  | 0, _, _, _ => none
  | fuel + 1, text, pending, cursor =>
    if cursor.isAtDocumentMark || cursor.peek? 0 == some '#' then
      some (text, pending.hasBreak, cursor)
    else do
      let run ← plainRun? isFlow cursor.rest
      let (text, pending) :=
        if run.isEmpty then (text, pending) else (text ++ pending.folded ++ run, {})
      let cursor := cursor.skip run.length
      if (cursor.peek? 0).any isSpacing then
        let (gap, cursor) ← Gap.read? indent (cursor.rest.length + 1) pending cursor
        if !isFlow && cursor.column < indent then some (text, gap.hasBreak, cursor)
        else plainLines? isFlow indent fuel text gap cursor
      else some (text, pending.hasBreak, cursor)

/-- A plain scalar whose further lines stand at column `indent` or behind. -/
def plain? (isFlow : Bool) (indent : Nat) (cursor : Cursor) : Option (List Char × Bool × Cursor) :=
  plainLines? isFlow indent (cursor.rest.length + 1) [] {} cursor

/-! ## Quoted scalars -/

def escapedChar? : Char → Option Char
  | '0' => some '\x00'
  | 'a' => some '\x07'
  | 'b' => some '\x08'
  | 't' => some '\t'
  | '\t' => some '\t'
  | 'n' => some '\n'
  | 'v' => some '\x0b'
  | 'f' => some '\x0c'
  | 'r' => some '\r'
  | 'e' => some '\x1b'
  | ' ' => some ' '
  | '"' => some '"'
  | '/' => some '/'
  | '\\' => some '\\'
  | 'N' => some '\x85'
  | '_' => some '\xa0'
  | 'L' => some '\u2028'
  | 'P' => some '\u2029'
  | _ => none

/-- How many hexadecimal digits follow the letter of a numeric escape. -/
def escapeWidth? : Char → Option Nat
  | 'x' => some 2
  | 'u' => some 4
  | 'U' => some 8
  | _ => none

/-- The character of a numeric escape. -/
def charOfDigits? (run : List Char) : Option Char := do
  let values ← run.mapM hexValue?
  let code := values.foldl (fun code value => 16 * code + value) 0
  if code.isValidChar then some (Char.ofNat code) else none

/-- The character that an escape after its backslash stands for, and its length. -/
def escape? : List Char → Option (Char × Nat)
  | [] => none
  | c :: rest =>
    match escapeWidth? c with
    | some width =>
      if (rest.take width).length = width then
        (charOfDigits? (rest.take width)).map fun decoded => (decoded, width + 1)
      else none
    | none => (escapedChar? c).map fun decoded => (decoded, 1)

/-- The characters up to a blank, a line break or the closing quote. The flag tells whether the run
ended with an escaped line break. -/
def quotedRun? (isDouble : Bool) : (fuel : Nat) → Cursor → Option (List Char × Bool × Cursor)
  | 0, _ => none
  | fuel + 1, cursor =>
    match cursor.rest with
    | [] => some ([], false, cursor)
    | c :: rest =>
      if isSpacing c then some ([], false, cursor)
      else if !isDouble && c == '\'' && rest.head? == some '\'' then do
        let (text, isEscapedBreak, cursor) ← quotedRun? isDouble fuel (cursor.skip 2)
        return ('\'' :: text, isEscapedBreak, cursor)
      else if c == (if isDouble then '"' else '\'') then some ([], false, cursor)
      else if isDouble && c == '\\' then
        if rest.head?.any isBreak then some ([], true, (cursor.skip 1).takeBreak.2)
        else do
          let (decoded, width) ← escape? rest
          let (text, isEscapedBreak, cursor) ← quotedRun? isDouble fuel (cursor.skip (width + 1))
          return (decoded :: text, isEscapedBreak, cursor)
      else do
        let (text, isEscapedBreak, cursor) ← quotedRun? isDouble fuel (cursor.skip 1)
        return (c :: text, isEscapedBreak, cursor)

/-- The lines of a quoted scalar after its opening quote, and the place after its closing quote. -/
def quotedLines? (isDouble : Bool) :
    (fuel : Nat) → (text : List Char) → Cursor → Option (List Char × Cursor)
  | 0, _, _ => none
  | fuel + 1, text, cursor =>
    if cursor.isAtDocumentMark || cursor.isAtEnd then none
    else do
      let size := cursor.rest.length + 1
      let (run, isEscapedBreak, cursor) ← quotedRun? isDouble size cursor
      let text := text ++ run
      if cursor.peek? 0 == some (if isDouble then '"' else '\'') then some (text, cursor.skip 1)
      else
        let (gap, cursor) ← Gap.read? 0 size { hasBreak := isEscapedBreak } cursor
        quotedLines? isDouble fuel (text ++ gap.folded) cursor

/-- A quoted scalar from its opening quote on. -/
def quoted? (isDouble : Bool) (cursor : Cursor) : Option (List Char × Cursor) :=
  quotedLines? isDouble (cursor.rest.length + 1) [] (cursor.skip 1)

/-! ## Block scalars -/

/-- What becomes of the line breaks at the end of a block scalar. -/
inductive Chomping where
  | strip
  | clip
  | keep
  deriving Repr, DecidableEq, Inhabited

structure BlockHeader where
  chomping : Chomping := .clip
  /-- The indentation of the content below that of its parent. -/
  increment : Option Nat := none

def chomping? : Char → Option Chomping
  | '-' => some .strip
  | '+' => some .keep
  | _ => none

def increment? (c : Char) : Option Nat :=
  if isDigit c && c != '0' then some (digitValue c) else none

/-- The header after the indicator, and its length; a zero is refused as increment. -/
def blockHeader? : List Char → Option (BlockHeader × Nat)
  | [] => some ({}, 0)
  | c :: rest =>
    let after : Option Char := rest.head?
    match chomping? c with
    | some chomping =>
      if after = some '0' then none
      else
        match after.bind increment? with
        | some increment => some ({ chomping, increment := some increment }, 2)
        | none => some ({ chomping }, 1)
    | none =>
      if c = '0' then none
      else
        match increment? c with
        | some increment =>
          match after.bind chomping? with
          | some chomping => some ({ chomping, increment := some increment }, 2)
          | none => some ({ increment := some increment }, 1)
        | none => some ({}, 0)

/-- Empty lines in front of a content line: their breaks, the widest run of spaces seen, and the
start of the next line that is not empty. Without a known indentation all spaces count as
indentation. -/
def emptyLines? (indent : Option Nat) :
    (fuel : Nat) → (breaks : List Char) → (widest : Nat) → Cursor →
      Option (List Char × Nat × Cursor)
  | 0, _, _, _ => none
  | fuel + 1, breaks, widest, cursor =>
    let room := (indent.map (· - cursor.column)).getD cursor.rest.length
    let cursor := cursor.skip ((cursor.rest.take room).takeWhile (· == ' ')).length
    let widest := max widest cursor.column
    if indent.all (cursor.column < ·) && cursor.peek? 0 == some '\t' then none
    else if (cursor.peek? 0).any isBreak then
      let (mark, next) := cursor.takeBreak
      emptyLines? indent fuel (breaks ++ [mark]) widest next
    else some (breaks, widest, cursor)

/-- The text of a block scalar read so far. -/
structure BlockText where
  text : List Char := []
  /-- The break at the end of the last content line. -/
  lastBreak : List Char := []
  /-- The breaks of the empty lines after it. -/
  emptyBreaks : List Char := []
  /-- Whether the last content line started with a blank. -/
  startedBlank : Bool := false

/-- What stands between the last content line and one more. -/
def BlockText.between (block : BlockText) (isLiteral startsBlank : Bool) : List Char :=
  if !isLiteral && block.lastBreak.head? == some '\n' && !block.startedBlank && !startsBlank then
    (if block.emptyBreaks.isEmpty then [' '] else []) ++ block.emptyBreaks
  else block.lastBreak ++ block.emptyBreaks

def BlockText.chomped (block : BlockText) : Chomping → List Char
  | .strip => block.text
  | .clip => block.text ++ block.lastBreak
  | .keep => block.text ++ block.lastBreak ++ block.emptyBreaks

/-- The content lines of a block scalar: those that start at its indentation. -/
def blockLines? (isLiteral : Bool) (indent : Nat) :
    (fuel : Nat) → BlockText → Cursor → Option (BlockText × Cursor)
  | 0, _, _ => none
  | fuel + 1, block, cursor =>
    if cursor.column == indent && !cursor.isAtEnd then do
      let startsBlank := (cursor.peek? 0).any isBlank
      let line := cursor.rest.takeWhile (!isBreak ·)
      let text := block.text ++ block.between isLiteral startsBlank ++ line
      let cursor := cursor.skip line.length
      let (lastBreak, cursor) : List Char × Cursor :=
        if cursor.isAtEnd then ([], cursor)
        else let (mark, next) := cursor.takeBreak; ([mark], next)
      let (emptyBreaks, _, cursor) ←
        emptyLines? (some indent) (cursor.rest.length + 1) [] 0 cursor
      blockLines? isLiteral indent fuel
        { text, lastBreak, emptyBreaks, startedBlank := startsBlank } cursor
    else some (block, cursor)

/-- A block scalar from its indicator on, below a parent of the given indentation. -/
def block? (isLiteral : Bool) (parent : Option Nat) (cursor : Cursor) :
    Option (List Char × Cursor) := do
  let (header, width) ← blockHeader? (cursor.rest.drop 1)
  let cursor := (cursor.skip (width + 1)).skipBlankAndComment
  if !cursor.isAtEnd && !(cursor.peek? 0).any isBreak then none
  else
    let cursor := cursor.skipBreak
    let size := cursor.rest.length + 1
    let known := header.increment.map (· + parent.getD 0)
    let (emptyBreaks, widest, cursor) ← emptyLines? known size [] 0 cursor
    let indent := known.getD (max widest (max (parent.elim 0 (· + 1)) 1))
    let (block, cursor) ← blockLines? isLiteral indent size { emptyBreaks } cursor
    return (block.chomped header.chomping, cursor)

end ClusterUpgrade.Yaml
