import Portrayal.Text.Blank
import Portrayal.Text.HiddenTable

/-!
Names in double quotes, as diagnostic listings show them. Quotes and backslashes are escaped, the
common controls have a letter, and every other character without a shape of its own is written as
its code point.
-/

namespace Portrayal.Text

/-- The digits of a number in lower-case hexadecimal. -/
def hexadecimal (n : Nat) : List Char := Nat.toDigits 16 n

/-- The form of one character between quotes. -/
def quoteChar (c : Char) : List Char :=
  if c = '"' ∨ c = '\\' then ['\\', c]
  else if c = '\n' then ['\\', 'n']
  else if c = '\r' then ['\\', 'r']
  else if c = '\t' then ['\\', 't']
  else if c.toNat = 0 then ['\\', '0']
  else if c.toNat < 0x20 ∨ inRanges hiddenRanges c then
    ['\\', 'u', '\x7b'] ++ hexadecimal c.toNat ++ ['\x7d']
  else [c]

/-- A name in double quotes. -/
def quote (s : String) : String :=
  String.ofList (['"'] ++ s.toList.flatMap quoteChar ++ ['"'])

end Portrayal.Text
