import RequestRunner.Text.Ascii
import RequestRunner.Text.Hidden

/-!
# Quoted text

How a message shows a text that somebody else wrote: between double quotes, with the quote, the
reverse solidus and every character that cannot be shown escaped.

## Main definitions

* `Text.quoted` — the text between quotes.
-/

namespace RequestRunner.Text

/-- A character of a quoted text. -/
def quoteChar (c : Char) : List Char :=
  if c = '"' then ['\\', '"']
  else if c = '\\' then ['\\', '\\']
  else if c = '\x00' then ['\\', '0']
  else if c = '\t' then ['\\', 't']
  else if c = '\n' then ['\\', 'n']
  else if c = '\r' then ['\\', 'r']
  else if isHidden c then ['\\', 'u', '{'] ++ Nat.toDigits 16 c.toNat ++ ['}']
  else [c]

/-- The text between double quotes. -/
def quoted (s : String) : String := String.ofList ('"' :: (s.toList.flatMap quoteChar ++ ['"']))

end RequestRunner.Text
