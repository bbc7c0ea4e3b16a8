import TickCapture.Text.Unprintable

/-! # Quoted text

A text between double quotes, as error messages show a value that was not understood. A quote and
a backslash are written with a backslash before them, five controls by a letter, and every other
unprintable character by its code point in hexadecimal. -/

namespace TickCapture
namespace Quoted

/-- The digits of `n` in base sixteen, small letters, no leading zero. -/
def hex (n : Nat) : List Char := Nat.toDigits 16 n

/-- One character as it stands between the quotes. -/
def escape (c : Char) : List Char :=
  if c = '\x00' then ['\\', '0']
  else if c = '\t' then ['\\', 't']
  else if c = '\r' then ['\\', 'r']
  else if c = '\n' then ['\\', 'n']
  else if c = '\\' then ['\\', '\\']
  else if c = '"' then ['\\', '"']
  else if isPrintable c then [c]
  else ['\\', 'u', Char.ofNat 0x7B] ++ hex c.toNat ++ [Char.ofNat 0x7D]

end Quoted

/-- `s` between double quotes. -/
def quoted (s : String) : String :=
  String.ofList ('"' :: s.toList.flatMap Quoted.escape ++ ['"'])

end TickCapture
