import ClusterUpgrade.Text.Utf8

/-!
Base64: each run of three bytes as four characters out of 64, the last run filled up with equals
signs.
-/

namespace ClusterUpgrade.Text

/-- The character that stands for six bits. -/
def base64Char (bits : Nat) : Char :=
  if bits < 26 then Char.ofNat ('A'.toNat + bits)
  else if bits < 52 then Char.ofNat ('a'.toNat + (bits - 26))
  else if bits < 62 then Char.ofNat ('0'.toNat + (bits - 52))
  else if bits = 62 then '+'
  else '/'

/-- The four characters of 24 bits. -/
def base64Run (bits : Nat) : List Char :=
  [bits / 0x40000, bits / 0x1000 % 64, bits / 64 % 64, bits % 64].map base64Char

def base64Chars : List UInt8 → List Char
  | [] => []
  | [a] => (base64Run (a.toNat * 0x10000)).take 2 ++ ['=', '=']
  | [a, b] => (base64Run (a.toNat * 0x10000 + b.toNat * 0x100)).take 3 ++ ['=']
  | a :: b :: c :: rest =>
    base64Run (a.toNat * 0x10000 + b.toNat * 0x100 + c.toNat) ++ base64Chars rest

/-- The bytes of a text in Base64. -/
def base64 (text : String) : String := String.ofList (base64Chars (utf8 text))

example : base64 "Aladdin:open sesame" = "QWxhZGRpbjpvcGVuIHNlc2FtZQ==" := by decide +kernel

end ClusterUpgrade.Text
