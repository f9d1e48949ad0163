/-
Text between quotes in messages. Quotes and backslashes are escaped,
blanks other than the space have letters of their own, and a character
that cannot be shown is given by its number.
-/
import TenantGate.Text.Hex
import TenantGate.Text.Unprintable

namespace TenantGate.Text.Escaped

/-- A character as it is shown. -/
def writeChar (c : Char) : List Char :=
  if c = '\x00' then ['\\', '0']
  else if c = '\t' then ['\\', 't']
  else if c = '\n' then ['\\', 'n']
  else if c = '\r' then ['\\', 'r']
  else if c = '"' then ['\\', '"']
  else if c = '\\' then ['\\', '\\']
  else if isUnprintable c then
    '\\' :: 'u' :: '\x7b' :: (Hex.minimal Hex.digit c.toNat ++ ['\x7d'])
  else [c]

/-- A text between quotes. -/
def quote (s : String) : String :=
  "\"" ++ s.foldl (fun t c => (writeChar c).foldl String.push t) "" ++ "\""

end TenantGate.Text.Escaped
