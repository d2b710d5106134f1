import GpuQuota.Text.Escaped

/-!
# Quoted texts

How a text is shown inside a message: between double quotes, with a backslash before a quote or a
backslash, letters for the common controls, and the hexadecimal code point in braces for every
other character that does not show as itself.

The module introduces `quote` and the escape of one character, `escapeChar`.
-/

namespace GpuQuota.Text

/-- The digits of a number in base sixteen, in lower case. -/
def hexDigits (n : Nat) : List Char := Nat.toDigits 16 n

/-- One character as it stands between the quotes. -/
def escapeChar (c : Char) : List Char :=
  if c = '"' then ['\\', '"']
  else if c = '\\' then ['\\', '\\']
  else if c = '\n' then ['\\', 'n']
  else if c = '\r' then ['\\', 'r']
  else if c = '\t' then ['\\', 't']
  else if c = '\x00' then ['\\', '0']
  else if isEscaped c then ['\\', 'u', '\x7b'] ++ hexDigits c.toNat ++ ['\x7d']
  else [c]

/-- The text between double quotes. -/
def quote (s : String) : String :=
  String.ofList ('"' :: s.toList.flatMap escapeChar ++ ['"'])

end GpuQuota.Text
