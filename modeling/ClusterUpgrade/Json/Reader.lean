import ClusterUpgrade.Json.Basic
import ClusterUpgrade.Json.Numeral
import ClusterUpgrade.Text.Hexadecimal

/-!
Reading JSON texts. A text is one value between blanks; `Json.parse?` is `none` for any other text.
Every nested value takes at least one character, so the length of the text bounds the recursion.
-/

namespace ClusterUpgrade.Json

open Text

/-- Space, tab, line feed and carriage return. -/
def isInsignificant (c : Char) : Bool := c == ' ' || c == '\t' || c == '\n' || c == '\r'

def skipInsignificant (text : List Char) : List Char := text.dropWhile isInsignificant

/-- One item of a string literal: a character, or half of a pair that names one. -/
inductive Unit16 where
  | character (c : Char)
  | half (code : Nat)
  deriving Repr, DecidableEq

def hex4? (a b c d : Char) : Option Nat := do
  return (((← hexValue? a) * 16 + (← hexValue? b)) * 16 + (← hexValue? c)) * 16 + (← hexValue? d)

/-- The item that a four-digit escape names. -/
def unitOfCode (code : Nat) : Unit16 :=
  if 0xd800 ≤ code ∧ code ≤ 0xdfff then .half code else .character (Char.ofNat code)

def unitOfEscape? : Char → Option Unit16
  | '"' => some (.character '"')
  | '\\' => some (.character '\\')
  | '/' => some (.character '/')
  | 'b' => some (.character '\x08')
  | 'f' => some (.character '\x0c')
  | 'n' => some (.character '\n')
  | 'r' => some (.character '\r')
  | 't' => some (.character '\t')
  | _ => none

/-- The items of a string literal after its opening quote, and the text after its closing quote. -/
def stringUnits? : List Char → Option (List Unit16 × List Char)
  | [] => none
  | '"' :: rest => some ([], rest)
  | '\\' :: 'u' :: a :: b :: c :: d :: rest => do
    let code ← hex4? a b c d
    let (units, rest) ← stringUnits? rest
    return (unitOfCode code :: units, rest)
  | '\\' :: escaped :: rest => do
    let unit ← unitOfEscape? escaped
    let (units, rest) ← stringUnits? rest
    return (unit :: units, rest)
  | c :: rest =>
    if c.toNat < 0x20 ∨ c = '\\' then none
    else do
      let (units, rest) ← stringUnits? rest
      return (.character c :: units, rest)

/-- Joins the halves in pairs; `none` if a half stands alone. -/
def charsOfUnits? : List Unit16 → Option (List Char)
  | [] => some []
  | .character c :: rest => (charsOfUnits? rest).map (c :: ·)
  | .half high :: .half low :: rest =>
    if high < 0xdc00 ∧ 0xdc00 ≤ low then
      (charsOfUnits? rest).map
        (Char.ofNat (0x10000 + (high - 0xd800) * 0x400 + (low - 0xdc00)) :: ·)
    else none
  | .half _ :: _ => none

/-- The text of a string literal after its opening quote; the inner `none` is a text that no
characters spell. -/
def stringBody? (text : List Char) : Option (Option String × List Char) := do
  let (units, rest) ← stringUnits? text
  return ((charsOfUnits? units).map String.ofList, rest)

/-- Digits after a point; at least one is needed. -/
def fraction? : List Char → Option (List Char × List Char)
  | '.' :: rest =>
    match rest.takeWhile isDigit with
    | [] => none
    | run => some (run, rest.dropWhile isDigit)
  | rest => some ([], rest)

def exponentSign : List Char → Bool × List Char
  | '-' :: rest => (true, rest)
  | '+' :: rest => (false, rest)
  | rest => (false, rest)

/-- An exponent part, `none` inside if there is none. -/
def exponent? : List Char → Option (Option Int × List Char)
  | c :: rest =>
    if c = 'e' ∨ c = 'E' then do
      let (isNegative, rest) := exponentSign rest
      let (magnitude, rest) ← takeNumber? rest
      return (some (if isNegative then -(magnitude : Int) else magnitude), rest)
    else some (none, c :: rest)
  | [] => some (none, [])

/-- The value of a number literal: an integer of at most 64 bits, or a double. -/
def ofLiteral (isNegative : Bool) (whole fraction : List Char) (exponent : Option Int) : Json :=
  let magnitude := ofDigits whole
  let isInteger := fraction.isEmpty && exponent.isNone
  if isInteger && !isNegative && magnitude < bound64 then .integer magnitude
  else if isInteger && isNegative && magnitude ≠ 0 && 2 * magnitude ≤ bound64 then
    .integer (-magnitude)
  else (Double.ofLiteral? isNegative whole fraction (exponent.getD 0)).elim .unreadable .double

/-- The whole part of a number literal: a zero alone, or digits that do not start with a zero. -/
def whole? : List Char → Option (List Char × List Char)
  | '0' :: rest => if rest.head?.any isDigit then none else some (['0'], rest)
  | text =>
    match text.takeWhile isDigit with
    | [] => none
    | run => some (run, text.dropWhile isDigit)

def number? (text : List Char) : Option (Json × List Char) := do
  let (isNegative, text) := match text with
    | '-' :: rest => (true, rest)
    | rest => (false, rest)
  let (whole, text) ← whole? text
  let (fraction, text) ← fraction? text
  let (exponent, text) ← exponent? text
  return (ofLiteral isNegative whole fraction exponent, text)

/-- The object of some entries; one without a text for every name denotes no value. -/
def ofEntries (entries : List (Option String × Json)) : Json :=
  match entries.mapM (fun entry => entry.1.map (·, entry.2)) with
  | some named => .object named
  | none => .unreadable

mutual
/-- One value at the start of a text, and the rest of the text. -/
def value? : Nat → List Char → Option (Json × List Char)
  | 0, _ => none
  | fuel + 1, text =>
    match text with
    | 'n' :: 'u' :: 'l' :: 'l' :: rest => some (.null, rest)
    | 't' :: 'r' :: 'u' :: 'e' :: rest => some (.bool true, rest)
    | 'f' :: 'a' :: 'l' :: 's' :: 'e' :: rest => some (.bool false, rest)
    | '"' :: rest => do
      let (content, rest) ← stringBody? rest
      return (content.elim .unreadable .string, rest)
    | '[' :: rest =>
      match skipInsignificant rest with
      | ']' :: rest => some (.array [], rest)
      | rest => do
        let (elements, rest) ← elements? fuel rest
        return (.array elements, rest)
    | '{' :: rest =>
      match skipInsignificant rest with
      | '}' :: rest => some (.object [], rest)
      | rest => do
        let (entries, rest) ← entries? fuel rest
        return (ofEntries entries, rest)
    | text => number? text

/-- Values with commas between them, up to the closing bracket. -/
def elements? : Nat → List Char → Option (List Json × List Char)
  | 0, _ => none
  | fuel + 1, text => do
    let (first, text) ← value? fuel (skipInsignificant text)
    match skipInsignificant text with
    | ']' :: rest => some ([first], rest)
    | ',' :: rest => do
      let (others, rest) ← elements? fuel rest
      return (first :: others, rest)
    | _ => none

/-- Named values with commas between them, up to the closing brace. -/
def entries? : Nat → List Char → Option (List (Option String × Json) × List Char)
  | 0, _ => none
  | fuel + 1, text =>
    match skipInsignificant text with
    | '"' :: rest => do
      let (name, text) ← stringBody? rest
      match skipInsignificant text with
      | ':' :: rest => do
        let (value, text) ← value? fuel (skipInsignificant rest)
        match skipInsignificant text with
        | '}' :: rest => some ([(name, value)], rest)
        | ',' :: rest => do
          let (others, rest) ← entries? fuel rest
          return ((name, value) :: others, rest)
        | _ => none
      | _ => none
    | _ => none
end

def parseChars? (text : List Char) : Option Json := do
  let (value, rest) ← value? (text.length + 1) (skipInsignificant text)
  if (skipInsignificant rest).isEmpty then some value else none

/-- The value of a JSON text. -/
def parse? (text : String) : Option Json := parseChars? text.toList

end ClusterUpgrade.Json
