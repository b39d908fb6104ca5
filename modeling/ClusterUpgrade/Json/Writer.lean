import ClusterUpgrade.Json.Basic
import ClusterUpgrade.Json.Numeral
import ClusterUpgrade.Text.Hexadecimal

/-!
Writing JSON values without blanks. Quotes, backslashes and control characters are escaped, all
other characters stand for themselves.
-/

namespace ClusterUpgrade.Json

open Text

/-- The letter after the backslash of a short escape. -/
def escapeLetter? (c : Char) : Option Char :=
  if c = '"' then some '"'
  else if c = '\\' then some '\\'
  else if c = '\x08' then some 'b'
  else if c = '\x0c' then some 'f'
  else if c = '\n' then some 'n'
  else if c = '\r' then some 'r'
  else if c = '\t' then some 't'
  else none

def escapeChar (c : Char) : List Char :=
  match escapeLetter? c with
  | some letter => ['\\', letter]
  | none =>
    if c.toNat < 0x20 then ['\\', 'u', '0', '0', hexDigit (c.toNat / 16), hexDigit (c.toNat % 16)]
    else [c]

def quoteChars (text : List Char) : List Char := '"' :: (text.flatMap escapeChar ++ ['"'])

def quote (text : String) : List Char := quoteChars text.toList

mutual
def writeChars : Json → List Char
  | .null => "null".toList
  | .bool true => "true".toList
  | .bool false => "false".toList
  | .integer value => (intText value).toList
  | .double value => value.numeral
  | .string text => quote text
  | .array elements => '[' :: (writeElements elements ++ [']'])
  | .object entries => '{' :: (writeEntries entries ++ ['}'])
  | .unreadable => "null".toList

def writeElements : List Json → List Char
  | [] => []
  | [element] => writeChars element
  | element :: rest => writeChars element ++ ',' :: writeElements rest

def writeEntries : List (String × Json) → List Char
  | [] => []
  | [(name, value)] => quote name ++ ':' :: writeChars value
  | (name, value) :: rest => quote name ++ ':' :: (writeChars value ++ ',' :: writeEntries rest)
end

/-- The compact text of a value. -/
def write (value : Json) : String := String.ofList (writeChars value)

end ClusterUpgrade.Json
