/-
Texts between quotes for people to read: what would not show, or would
hide the quotes, is escaped. A quote and a backslash get a backslash,
the common controls a letter, and any other character that leaves no
mark or clings to the one before it its number between braces.
-/
import SecurityConsole.Text.Invisible
import SecurityConsole.Text.Combining
import SecurityConsole.Text.Hex

namespace SecurityConsole.Text

/-- The escape of a character by its number. -/
def numberEscape (c : Char) : List Char :=
  ['\\', 'u', '\x7b'] ++ (Nat.toDigits 16 c.toNat) ++ ['\x7d']

/-- A character between quotes. -/
def quoteChar (c : Char) : List Char :=
  if c = '"' then ['\\', '"']
  else if c = '\\' then ['\\', '\\']
  else if c = '\x00' then ['\\', '0']
  else if c = '\t' then ['\\', 't']
  else if c = '\n' then ['\\', 'n']
  else if c = '\r' then ['\\', 'r']
  else if isInvisible c || isCombining c then numberEscape c
  else [c]

/-- A text between quotes. -/
def quoted (s : String) : String :=
  String.ofList ('"' :: s.toList.flatMap quoteChar ++ ['"'])

end SecurityConsole.Text
