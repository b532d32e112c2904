import LinkedData.Text.Hex
import LinkedData.Text.Printable

/-!
# LinkedData.Text.Shown -- strings as reports show them

A report shows a string between double quotes. The quote and the backslash are escaped, the
common control characters have a letter each, and every other character that cannot be shown
is written as its code point in braces.
-/

namespace LinkedData.Text

/-- A character as a report shows it inside quotes. -/
def shownChar (c : Char) : List Char :=
  if c = '"' then ['\\', '"']
  else if c = '\\' then ['\\', '\\']
  else if c = '\n' then ['\\', 'n']
  else if c = '\r' then ['\\', 'r']
  else if c = '\t' then ['\\', 't']
  else if c = '\x00' then ['\\', '0']
  else if isPrintable c then [c]
  else '\\' :: 'u' :: '{' :: hexLower 1 c.toNat ++ ['}']

/-- A string as a report shows it. -/
def shown (s : String) : List Char :=
  '"' :: s.toList.flatMap shownChar ++ ['"']

end LinkedData.Text
