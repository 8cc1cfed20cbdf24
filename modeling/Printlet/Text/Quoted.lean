/-
Printlet.Text.Quoted — text in double quotes, all on one line.

Listings and outlines show texts in this form. A quote and a backslash are escaped, the common
controls have short escapes, and whatever leaves no mark of its own is written by number. A line end
is always escaped, so a quoted text never leaves its line.
-/
import Printlet.Text.Visible

namespace Printlet.Text

/-- How a character is written between double quotes. -/
def escape (c : Char) : List Char :=
  if c = '\x00' then ['\\', '0']
  else if c = '\t' then ['\\', 't']
  else if c = '\r' then ['\\', 'r']
  else if c = '\n' then ['\\', 'n']
  else if c = '"' then ['\\', '"']
  else if c = '\\' then ['\\', '\\']
  else if isVisible c then [c]
  else ['\\', 'u', '\x7b'] ++ Nat.toDigits 16 c.toNat ++ ['\x7d']

/-- A text in double quotes. -/
def quoted (s : String) : String :=
  String.ofList ('"' :: (s.toList.flatMap escape ++ ['"']))

end Printlet.Text
