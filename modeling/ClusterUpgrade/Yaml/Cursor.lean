/-!
Positions in YAML texts, and the blanks and line breaks between pieces of content.
-/

namespace ClusterUpgrade.Yaml

def isBlank (c : Char) : Bool := c == ' ' || c == '\t'

def isBreak (c : Char) : Bool :=
  c == '\n' || c == '\r' || c == '\x85' || c == '\u2028' || c == '\u2029'

def isSpacing (c : Char) : Bool := isBlank c || isBreak c

/-- The characters that a YAML text may hold. -/
def isPrintable (c : Char) : Bool :=
  let code := c.toNat
  code == 0x09 || code == 0x0a || code == 0x0d || (0x20 ≤ code && code ≤ 0x7e) || code == 0x85
    || (0xa0 ≤ code && code ≤ 0xd7ff) || (0xe000 ≤ code && code ≤ 0xfffd) || 0x10000 ≤ code

/-- A mark that may stand in front of a line; the text behind it is a column further. -/
def byteOrderMark : Char := '\ufeff'

structure Cursor where
  rest : List Char
  index : Nat := 0
  line : Nat := 0
  column : Nat := 0
  deriving Repr, Inhabited

namespace Cursor

def peek? (cursor : Cursor) (offset : Nat) : Option Char := cursor.rest[offset]?

def isAtEnd (cursor : Cursor) : Bool := cursor.rest.isEmpty

/-- Whether the text ends, or goes on with a blank or a line break, after some characters. -/
def isSpacingAt (cursor : Cursor) (offset : Nat) : Bool := (cursor.peek? offset).all isSpacing

def startsWith (cursor : Cursor) (lead : String) : Bool := lead.toList.isPrefixOf cursor.rest

/-- Moves over characters of one line. -/
def skip (cursor : Cursor) (count : Nat) : Cursor :=
  { cursor with
    rest := cursor.rest.drop count
    index := cursor.index + count
    column := cursor.column + count }

/-- The character that the line break at the cursor stands for, and the start of the next line. -/
def takeBreak (cursor : Cursor) : Char × Cursor :=
  let (mark, width) : Char × Nat := match cursor.rest with
    | '\r' :: '\n' :: _ => ('\n', 2)
    | '\u2028' :: _ => ('\u2028', 1)
    | '\u2029' :: _ => ('\u2029', 1)
    | _ => ('\n', 1)
  (mark, { rest := cursor.rest.drop width
           index := cursor.index + width
           line := cursor.line + 1
           column := 0 })

/-- Moves over the longest run of characters of one line that satisfy `p`. -/
def skipWhile (p : Char → Bool) (cursor : Cursor) : Cursor :=
  cursor.skip (cursor.rest.takeWhile p).length

/-- Moves over the mark in front of a line, if there is one. -/
def skipByteOrderMark (cursor : Cursor) : Cursor :=
  if cursor.column == 0 && cursor.peek? 0 == some byteOrderMark then cursor.skip 1 else cursor

/-- Moves over blanks and a comment. -/
def skipBlankAndComment (cursor : Cursor) : Cursor :=
  let cursor := cursor.skipWhile isBlank
  if cursor.peek? 0 = some '#' then cursor.skipWhile (!isBreak ·) else cursor

/-- Moves over the line break at the cursor, if there is one. -/
def skipBreak (cursor : Cursor) : Cursor :=
  if (cursor.peek? 0).any isBreak then cursor.takeBreak.2 else cursor

/-- Whether a line starts with one of the marks that separate documents. -/
def isAtDocumentMark (cursor : Cursor) : Bool :=
  cursor.column == 0 && (cursor.startsWith "---" || cursor.startsWith "...") && cursor.isSpacingAt 3

end Cursor

/-- Blanks and line breaks between two pieces of content. -/
structure Gap where
  /-- The blanks, if there is no line break. -/
  blanks : List Char := []
  hasBreak : Bool := false
  /-- The first line break. -/
  first : List Char := []
  /-- The line breaks after it. -/
  others : List Char := []
  deriving Repr, Inhabited

namespace Gap

/-- One line break between two lines of content folds into a space, more of them into one break
less; blanks on one line stand for themselves. -/
def folded (gap : Gap) : List Char :=
  if gap.hasBreak then
    if gap.first = ['\n'] then (if gap.others.isEmpty then [' '] else gap.others)
    else gap.first ++ gap.others
  else gap.blanks

/-- Reads over blanks and line breaks; `none` if a tab stands before column `indent` of a line. -/
def read? (indent : Nat) : (fuel : Nat) → Gap → Cursor → Option (Gap × Cursor)
  | 0, _, _ => none
  | fuel + 1, gap, cursor =>
    match cursor.rest with
    | [] => some (gap, cursor)
    | c :: _ =>
      if isBlank c then
        if !gap.hasBreak then
          read? indent fuel { gap with blanks := gap.blanks ++ [c] } (cursor.skip 1)
        else if c == '\t' && cursor.column < indent then none
        else read? indent fuel gap (cursor.skip 1)
      else if isBreak c then
        let (mark, next) := cursor.takeBreak
        if gap.hasBreak then read? indent fuel { gap with others := gap.others ++ [mark] } next
        else read? indent fuel { hasBreak := true, first := [mark] } next
      else some (gap, cursor)

end Gap

end ClusterUpgrade.Yaml
