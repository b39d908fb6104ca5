import ClusterUpgrade.Text.Hexadecimal
import ClusterUpgrade.Text.Utf8

/-!
Percent-encoding: bytes as a percent sign and two hexadecimal digits.
-/

namespace ClusterUpgrade.Http.Percent

open Text

def encodedByte (byte : UInt8) : List Char :=
  ['%', upperHexDigit (byte.toNat / 16), upperHexDigit (byte.toNat % 16)]

/-- The text with every control, every character outside of ASCII and the given ones encoded. -/
def encode (reserved : List Char) (text : List Char) : List Char :=
  text.flatMap fun c =>
    if c.toNat < 0x20 ∨ 0x7f ≤ c.toNat ∨ c ∈ reserved then
      (utf8 (String.ofList [c])).flatMap encodedByte
    else [c]

/-- The bytes that a text spells; a percent sign without two digits stands for itself. -/
def decode : List Char → List UInt8
  | '%' :: high :: low :: rest =>
    match hexValue? high, hexValue? low with
    | some h, some l => UInt8.ofNat (h * 16 + l) :: decode rest
    | _, _ => utf8 "%" ++ decode (high :: low :: rest)
  | c :: rest => utf8 (String.ofList [c]) ++ decode rest
  | [] => []

end ClusterUpgrade.Http.Percent
