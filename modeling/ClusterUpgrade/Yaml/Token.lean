import ClusterUpgrade.Text.Utf8
import ClusterUpgrade.Yaml.Scalar

/-!
YAML texts as tokens. Blocks that only indentation delimits have tokens for their start and end, and
what turns out to be the key of a mapping, once its colon is reached, has a token in front of it.
-/

namespace ClusterUpgrade.Yaml

open Text

/-- The name of a type of nodes, as octets. -/
abbrev Tag : Type := List UInt8

inductive Token where
  | versionDirective (major minor : Nat)
  | tagDirective (handle : String) (target : Tag)
  | documentStart
  | documentEnd
  | sequenceStart
  | mappingStart
  | blockEnd
  | flowSequenceStart
  | flowSequenceEnd
  | flowMappingStart
  | flowMappingEnd
  | blockEntry
  | flowEntry
  | key
  | value
  | alias (name : String)
  | anchor (name : String)
  | tag (handle : String) (suffix : Tag)
  | scalar (style : ScalarStyle) (text : String)
  deriving Repr, DecidableEq, Inhabited

/-- Content that may turn out to be the key of a mapping. -/
structure KeyCandidate where
  /-- The content starts a line of an open mapping, so it has to be a key. -/
  isRequired : Bool
  /-- How many tokens stand in front of the content. -/
  tokenCount : Nat
  start : Cursor
  deriving Inhabited

structure Scanner where
  cursor : Cursor
  tokens : Array Token := #[]
  /-- The columns of the open blocks, the innermost first. -/
  indents : List Nat := []
  /-- Whether a key may start at the cursor. -/
  allowsKey : Bool := true
  /-- The candidate of every open flow collection, the innermost first, and that of the block. -/
  candidates : List (Option KeyCandidate) := [none]
  deriving Inhabited

namespace Scanner

/-! ## State -/

def isFlow (scanner : Scanner) : Bool := 1 < scanner.candidates.length

def column (scanner : Scanner) : Nat := scanner.cursor.column

def push (scanner : Scanner) (token : Token) : Scanner :=
  { scanner with tokens := scanner.tokens.push token }

def skip (scanner : Scanner) (count : Nat) : Scanner :=
  { scanner with cursor := scanner.cursor.skip count }

def allowKey (scanner : Scanner) (allowsKey : Bool) : Scanner := { scanner with allowsKey }

def candidate? (scanner : Scanner) : Option KeyCandidate := scanner.candidates.head?.join

/-- Puts a token in front of those that came after the first `count`. -/
def insertAt (scanner : Scanner) (count : Nat) (token : Token) : Scanner :=
  { scanner with
    tokens := scanner.tokens.extract 0 count ++ #[token]
      ++ scanner.tokens.extract count scanner.tokens.size }

/-- Gives up the current candidate; `none` if it has to be a key. -/
def dropCandidate? (scanner : Scanner) : Option Scanner :=
  if scanner.candidate?.any (·.isRequired) then none
  else some { scanner with candidates := none :: scanner.candidates.tail }

/-- Makes the content at the cursor a candidate, where a key may start. -/
def noteCandidate? (scanner : Scanner) : Option Scanner :=
  if scanner.allowsKey then do
    let scanner ← scanner.dropCandidate?
    let candidate : KeyCandidate :=
      { isRequired := !scanner.isFlow && scanner.indents.head? == some scanner.column
        tokenCount := scanner.tokens.size
        start := scanner.cursor }
    return { scanner with candidates := some candidate :: scanner.candidates.tail }
  else some scanner

/-- The number of characters within which the colon of a key has to follow. -/
def keyReach : Nat := 1024

def isStale (cursor : Cursor) (candidate : KeyCandidate) : Bool :=
  candidate.start.line < cursor.line || candidate.start.index + keyReach < cursor.index

/-- Gives up the candidates that the cursor has left behind; `none` if one must be a key. -/
def dropStale? (scanner : Scanner) : Option Scanner :=
  let isLeft (candidate : Option KeyCandidate) : Bool := candidate.any (isStale scanner.cursor)
  if scanner.candidates.any fun candidate =>
      isLeft candidate && candidate.any (·.isRequired) then none
  else some { scanner with
    candidates := scanner.candidates.map fun candidate =>
      if isLeft candidate then none else candidate }

/-- Opens a block at a column behind that of the innermost open block. -/
def openBlock (scanner : Scanner) (column : Nat) (count : Nat) (token : Token) : Scanner :=
  if scanner.isFlow || scanner.indents.head?.any (column ≤ ·) then scanner
  else { scanner.insertAt count token with indents := column :: scanner.indents }

/-- Closes the blocks that do not reach to a column; with no column all of them. -/
def closeBlocks (scanner : Scanner) (column : Option Nat) : Scanner :=
  if scanner.isFlow then scanner
  else
    let open_ := scanner.indents.dropWhile fun indent => column.all (· < indent)
    { scanner with
      indents := open_
      tokens := scanner.tokens
        ++ Array.replicate (scanner.indents.length - open_.length) Token.blockEnd }

/-! ## Between tokens -/

/-- Moves to the next token, over blanks, comments, line breaks and the marks in front of lines. A
tab is no blank where a key may start. -/
def skipSpacing : (fuel : Nat) → Scanner → Scanner
  | 0, scanner => scanner
  | fuel + 1, scanner =>
    let isSkipped (c : Char) : Bool :=
      c == ' ' || ((scanner.isFlow || !scanner.allowsKey) && c == '\t')
    let cursor := scanner.cursor.skipByteOrderMark.skipWhile isSkipped
    let cursor := if cursor.peek? 0 = some '#' then cursor.skipWhile (!isBreak ·) else cursor
    if (cursor.peek? 0).any isBreak then
      skipSpacing fuel { scanner with
        cursor := cursor.takeBreak.2
        allowsKey := scanner.allowsKey || !scanner.isFlow }
    else { scanner with cursor }

/-! ## Names and tags -/

def isWordChar (c : Char) : Bool :=
  isDigit c || ('a' ≤ c && c ≤ 'z') || ('A' ≤ c && c ≤ 'Z') || c == '_' || c == '-'

/-- The name of an anchor or an alias after its mark. -/
def name? (cursor : Cursor) : Option (String × Cursor) :=
  let run := cursor.rest.takeWhile isWordChar
  let cursor := cursor.skip run.length
  let isEnded := (cursor.peek? 0).all fun c => isSpacing c || "?:,]\x7d%@\x60".toList.contains c
  if run.isEmpty || !isEnded then none else some (String.ofList run, cursor)

def isTagChar (isVerbatim : Bool) (c : Char) : Bool :=
  isWordChar c || ";/?:@&=+$.!~*'()%".toList.contains c || (isVerbatim && ",[]".toList.contains c)

/-- How many octets a character of UTF-8 has that starts with the given one. -/
def octetCount? (octet : Nat) : Option Nat :=
  if octet < 0x80 then some 1
  else if 0xc0 ≤ octet ∧ octet < 0xe0 then some 2
  else if 0xe0 ≤ octet ∧ octet < 0xf0 then some 3
  else if 0xf0 ≤ octet ∧ octet < 0xf8 then some 4
  else none

/-- The octets that a run of tag characters spells, where `missing` octets of a character are still
to come. Octets behind percent signs have to come in the number that the first one announces; which
character they make is not looked at. -/
def tagOctets? : (missing : Nat) → List Char → Option Tag
  | missing, '%' :: high :: low :: rest => do
    let octet := (← hexValue? high) * 16 + (← hexValue? low)
    let missing ← match missing with
      | 0 => (octetCount? octet).map (· - 1)
      | missing + 1 => if 0x80 ≤ octet ∧ octet < 0xc0 then some missing else none
    return UInt8.ofNat octet :: (← tagOctets? missing rest)
  | 0, '%' :: _ => none
  | 0, c :: rest => do return utf8 (String.ofList [c]) ++ (← tagOctets? 0 rest)
  | 0, [] => some []
  | _ + 1, _ => none

/-- A run of at least one tag character, and the place after it. A tag ends in front of its first
zero octet. -/
def tagRun? (isVerbatim : Bool) (cursor : Cursor) : Option (Tag × Cursor) := do
  let run := cursor.rest.takeWhile (isTagChar isVerbatim)
  if run.isEmpty then none
  else return ((← tagOctets? 0 run).takeWhile (· != 0), cursor.skip run.length)

/-- The tag of an exclamation mark alone. -/
def bareTag : Tag := utf8 "!"

/-- A tag from its mark on: `!<...>`, `!handle!suffix`, `!suffix` or `!`. -/
def tag? (isFlow : Bool) (cursor : Cursor) : Option (Token × Cursor) := do
  let (token, cursor) ←
    if cursor.peek? 1 = some '<' then do
      let (suffix, cursor) ← tagRun? true (cursor.skip 2)
      if cursor.peek? 0 != some '>' then none else some (Token.tag "" suffix, cursor.skip 1)
    else
      let word := (cursor.rest.drop 1).takeWhile isWordChar
      if cursor.peek? (word.length + 1) = some '!' then do
        let (suffix, next) ← tagRun? false (cursor.skip (word.length + 2))
        return (Token.tag (String.ofList ('!' :: word ++ ['!'])) suffix, next)
      else if !(cursor.peek? 1).any (isTagChar false) then
        some (Token.tag "" bareTag, cursor.skip 1)
      else do
        let (suffix, next) ← tagRun? false (cursor.skip 1)
        return (if suffix.isEmpty then Token.tag "" bareTag else Token.tag "!" suffix, next)
  if cursor.isSpacingAt 0 || (isFlow && cursor.peek? 0 = some ',') then some (token, cursor)
  else none

/-! ## Directives -/

/-- A number of at most nine digits. -/
def versionNumber? (cursor : Cursor) : Option (Nat × Cursor) :=
  let run := cursor.rest.takeWhile isDigit
  if run.isEmpty || 9 < run.length then none else some (ofDigits run, cursor.skip run.length)

/-- A tag handle: `!`, `!!` or a word between exclamation marks. -/
def handle? (cursor : Cursor) : Option (String × Cursor) :=
  let word := (cursor.rest.drop 1).takeWhile isWordChar
  if cursor.peek? 0 != some '!' then none
  else if cursor.peek? (word.length + 1) = some '!' then
    some (String.ofList ('!' :: word ++ ['!']), cursor.skip (word.length + 2))
  else if word.isEmpty then some ("!", cursor.skip 1)
  else none

def directiveBody? (name : String) (cursor : Cursor) : Option (Token × Cursor) :=
  let cursor := cursor.skipWhile isBlank
  if name = "YAML" then do
    let (major, cursor) ← versionNumber? cursor
    if cursor.peek? 0 != some '.' then none
    else
      let (minor, cursor) ← versionNumber? (cursor.skip 1)
      return (.versionDirective major minor, cursor)
  else if name = "TAG" then do
    let (handle, cursor) ← handle? cursor
    if !(cursor.peek? 0).any isBlank then none
    else
      let (target, cursor) ← tagRun? true (cursor.skipWhile isBlank)
      if !cursor.isSpacingAt 0 then none
      else return (.tagDirective handle target, cursor)
  else none

/-- A directive after its percent sign, up to the next line. -/
def directive? (cursor : Cursor) : Option (Token × Cursor) := do
  let word := cursor.rest.takeWhile isWordChar
  let cursor := cursor.skip word.length
  if word.isEmpty || !cursor.isSpacingAt 0 then none
  else
    let (token, cursor) ← directiveBody? (String.ofList word) cursor
    let cursor := cursor.skipBlankAndComment
    if cursor.isAtEnd || (cursor.peek? 0).any isBreak then some (token, cursor.skipBreak) else none

/-! ## Tokens -/

def directiveToken? (scanner : Scanner) : Option Scanner := do
  let scanner ← (scanner.closeBlocks none).dropCandidate?
  let (token, cursor) ← directive? (scanner.cursor.skip 1)
  return { (scanner.allowKey false).push token with cursor }

def documentMark? (scanner : Scanner) (token : Token) : Option Scanner := do
  let scanner ← (scanner.closeBlocks none).dropCandidate?
  return ((scanner.allowKey false).push token).skip 3

def flowStart? (scanner : Scanner) (token : Token) : Option Scanner := do
  let scanner ← scanner.noteCandidate?
  let scanner := { scanner with candidates := none :: scanner.candidates }
  return ((scanner.allowKey true).push token).skip 1

def flowEnd? (scanner : Scanner) (token : Token) : Option Scanner := do
  let scanner ← scanner.dropCandidate?
  let scanner :=
    if scanner.isFlow then { scanner with candidates := scanner.candidates.tail } else scanner
  return ((scanner.allowKey false).push token).skip 1

def flowEntry? (scanner : Scanner) : Option Scanner := do
  return ((← scanner.dropCandidate?).allowKey true |>.push .flowEntry).skip 1

def blockEntry? (scanner : Scanner) : Option Scanner :=
  if !scanner.isFlow && !scanner.allowsKey then none
  else do
    let scanner := scanner.openBlock scanner.column scanner.tokens.size .sequenceStart
    return ((← scanner.dropCandidate?).allowKey true |>.push .blockEntry).skip 1

def explicitKey? (scanner : Scanner) : Option Scanner :=
  if !scanner.isFlow && !scanner.allowsKey then none
  else do
    let scanner := scanner.openBlock scanner.column scanner.tokens.size .mappingStart
    let scanner ← scanner.dropCandidate?
    return ((scanner.allowKey !scanner.isFlow).push .key).skip 1

/-- A colon: the current candidate becomes a key, or the value belongs to an explicit key. -/
def value? (scanner : Scanner) : Option Scanner :=
  match scanner.candidate? with
  | some candidate =>
    let scanner := scanner.insertAt candidate.tokenCount .key
    let scanner :=
      scanner.openBlock candidate.start.column candidate.tokenCount .mappingStart
    let scanner := { scanner with candidates := none :: scanner.candidates.tail }
    some (((scanner.allowKey false).push .value).skip 1)
  | none =>
    if !scanner.isFlow && !scanner.allowsKey then none
    else
      let scanner := scanner.openBlock scanner.column scanner.tokens.size .mappingStart
      some (((scanner.allowKey !scanner.isFlow).push .value).skip 1)

def named? (scanner : Scanner) (token : String → Token) : Option Scanner := do
  let scanner ← scanner.noteCandidate?
  let (name, cursor) ← name? (scanner.cursor.skip 1)
  return { (scanner.allowKey false).push (token name) with cursor }

def tagToken? (scanner : Scanner) : Option Scanner := do
  let scanner ← scanner.noteCandidate?
  let (token, cursor) ← tag? scanner.isFlow scanner.cursor
  return { (scanner.allowKey false).push token with cursor }

def blockScalar? (scanner : Scanner) (style : ScalarStyle) : Option Scanner := do
  let scanner ← scanner.dropCandidate?
  let (text, cursor) ← block? (style == .literal) scanner.indents.head? scanner.cursor
  return { (scanner.allowKey true).push (.scalar style (String.ofList text)) with cursor }

def quotedScalar? (scanner : Scanner) (style : ScalarStyle) : Option Scanner := do
  let scanner ← scanner.noteCandidate?
  let (text, cursor) ← quoted? (style == .doubleQuoted) scanner.cursor
  return { (scanner.allowKey false).push (.scalar style (String.ofList text)) with cursor }

def plainScalar? (scanner : Scanner) : Option Scanner := do
  let scanner ← scanner.noteCandidate?
  let (text, isBroken, cursor) ←
    plain? scanner.isFlow (scanner.indents.head?.elim 0 (· + 1)) scanner.cursor
  return { (scanner.allowKey isBroken).push (.scalar .plain (String.ofList text)) with cursor }

/-- Whether a plain scalar may start at the cursor. -/
def startsPlain (scanner : Scanner) : Bool :=
  match scanner.cursor.rest with
  | [] => false
  | c :: rest =>
    if c == '-' then !rest.head?.any isBlank
    else if c == '?' || c == ':' then !scanner.isFlow && !rest.head?.all isSpacing
    else !isSpacing c && !",[]\x7b\x7d#&*!|>'\"%@\x60".toList.contains c

/-- Reads the token at the cursor. -/
def token? (scanner : Scanner) : Option Scanner :=
  let cursor := scanner.cursor
  let isIndicator := scanner.isFlow || cursor.isSpacingAt 1
  match cursor.peek? 0 with
  | none => none
  | some c =>
    if cursor.column == 0 && c == '%' then scanner.directiveToken?
    else if cursor.isAtDocumentMark then
      scanner.documentMark? (if c == '-' then .documentStart else .documentEnd)
    else if c == '[' then scanner.flowStart? .flowSequenceStart
    else if c == '\x7b' then scanner.flowStart? .flowMappingStart
    else if c == ']' then scanner.flowEnd? .flowSequenceEnd
    else if c == '\x7d' then scanner.flowEnd? .flowMappingEnd
    else if c == ',' then scanner.flowEntry?
    else if c == '-' && cursor.isSpacingAt 1 then scanner.blockEntry?
    else if c == '?' && isIndicator then scanner.explicitKey?
    else if c == ':' && isIndicator then scanner.value?
    else if c == '*' then scanner.named? .alias
    else if c == '&' then scanner.named? .anchor
    else if c == '!' then scanner.tagToken?
    else if c == '|' && !scanner.isFlow then scanner.blockScalar? .literal
    else if c == '>' && !scanner.isFlow then scanner.blockScalar? .folded
    else if c == '\'' then scanner.quotedScalar? .singleQuoted
    else if c == '"' then scanner.quotedScalar? .doubleQuoted
    else if scanner.startsPlain then scanner.plainScalar?
    else none

/-- Reads all tokens; every token takes at least one character. -/
def run? : (fuel : Nat) → Scanner → Option (Array Token)
  | 0, _ => none
  | fuel + 1, scanner => do
    let scanner := scanner.skipSpacing (scanner.cursor.rest.length + 1)
    let scanner ← scanner.dropStale?
    if scanner.cursor.isAtEnd then
      let scanner ← (scanner.closeBlocks none).dropCandidate?
      return scanner.tokens
    else run? fuel (← (scanner.closeBlocks (some scanner.column)).token?)

end Scanner

/-- The tokens of a text. -/
def tokens? (text : String) : Option (List Token) :=
  let content := text.toList
  if content.all isPrintable then
    (Scanner.run? (content.length + 1) { cursor := { rest := content } }).map Array.toList
  else none

end ClusterUpgrade.Yaml
