import ClusterUpgrade.Text.Hidden

/-!
Texts as messages quote them: between double quotes, with escapes for quotes, backslashes and
characters that do not show by themselves.
-/

namespace ClusterUpgrade.Text

/-- Lower-case hexadecimal digits of a number, most significant first. -/
def hexDigits (n : Nat) : List Char := Nat.toDigits 16 n

def escapedChar (c : Char) : List Char :=
  if c = '"' then ['\\', '"']
  else if c = '\\' then ['\\', '\\']
  else if c = '\n' then ['\\', 'n']
  else if c = '\r' then ['\\', 'r']
  else if c = '\t' then ['\\', 't']
  else if c = Char.ofNat 0 then ['\\', '0']
  else if isHidden c then "\\u".toList ++ Char.ofNat 0x7b :: hexDigits c.toNat ++ [Char.ofNat 0x7d]
  else [c]

/-- The text between quotes, with escapes. -/
def escaped (text : String) : String :=
  String.ofList ('"' :: (text.toList.flatMap escapedChar ++ ['"']))

end ClusterUpgrade.Text
