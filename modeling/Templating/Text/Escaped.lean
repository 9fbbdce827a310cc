import Templating.Text.Hidden

/-!
# Escaped text

Text between double quotes as debugging output shows it: quote, backslash and the common controls
by a letter, every other hidden character by its code in braces.
-/

namespace Templating.Text

def escapedChar (c : Char) : List Char :=
  if c = '"' then ['\\', '"']
  else if c = '\\' then ['\\', '\\']
  else if c = '\n' then ['\\', 'n']
  else if c = '\r' then ['\\', 'r']
  else if c = '\t' then ['\\', 't']
  else if c.toNat = 0 then ['\\', '0']
  else if isHidden c then
    ['\\', 'u', Char.ofNat 0x7b] ++ Nat.toDigits 16 c.toNat ++ [Char.ofNat 0x7d]
  else [c]

def escaped (text : List Char) : List Char := '"' :: text.flatMap escapedChar ++ ['"']

end Templating.Text
