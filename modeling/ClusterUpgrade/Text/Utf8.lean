/-!
UTF-8. Bytes that spell no character are read as one gap for each longest run that some character
could start with.
-/

namespace ClusterUpgrade.Text

/-- A character of several bytes that has been read in part. -/
structure PartialChar where
  /-- The bits read so far. -/
  bits : Nat
  /-- How many bytes are still to come. -/
  missing : Nat
  /-- The bounds of the next byte. -/
  low : Nat := 0x80
  high : Nat := 0xbf

/-- The character that a byte starts, if it starts one of several bytes. The bounds of the second
byte leave out overlong forms, halves of pairs, and numbers past the last character. -/
def partialChar? (byte : Nat) : Option PartialChar :=
  if byte < 0xc2 then none
  else if byte < 0xe0 then some { bits := byte - 0xc0, missing := 1 }
  else if byte = 0xe0 then some { bits := 0, missing := 2, low := 0xa0 }
  else if byte = 0xed then some { bits := 0xd, missing := 2, high := 0x9f }
  else if byte < 0xf0 then some { bits := byte - 0xe0, missing := 2 }
  else if byte = 0xf0 then some { bits := 0, missing := 3, low := 0x90 }
  else if byte < 0xf4 then some { bits := byte - 0xf0, missing := 3 }
  else if byte = 0xf4 then some { bits := 4, missing := 3, high := 0x8f }
  else none

/-- The characters that bytes spell after a character read in part; `none` is a gap. -/
def decodeAfter : Option PartialChar → List UInt8 → List (Option Char)
  | none, [] => []
  | some _, [] => [none]
  | begun, byte :: rest =>
    let code := byte.toNat
    let fresh : List (Option Char) :=
      if code < 0x80 then some (Char.ofNat code) :: decodeAfter none rest
      else
        match partialChar? code with
        | some start => decodeAfter (some start) rest
        | none => none :: decodeAfter none rest
    match begun with
    | none => fresh
    | some begun =>
      if begun.low ≤ code ∧ code ≤ begun.high then
        let bits := begun.bits * 64 + (code - 0x80)
        if begun.missing ≤ 1 then some (Char.ofNat bits) :: decodeAfter none rest
        else decodeAfter (some { bits, missing := begun.missing - 1 }) rest
      else none :: fresh

/-- The characters that bytes spell, with `none` for gaps. -/
def decodeUtf8 (bytes : List UInt8) : List (Option Char) := decodeAfter none bytes

/-- The text that bytes spell, if there are no gaps. -/
def ofUtf8? (bytes : List UInt8) : Option String :=
  ((decodeUtf8 bytes).mapM id).map String.ofList

/-- The text that bytes spell, with replacement characters for gaps. -/
def ofUtf8 (bytes : List UInt8) : String :=
  String.ofList ((decodeUtf8 bytes).map (·.getD '\ufffd'))

/-- The bytes of a text. -/
def utf8 (text : String) : List UInt8 := text.toUTF8.toList

end ClusterUpgrade.Text
