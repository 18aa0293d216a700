/-
JSON text from values: without blanks for messages, and with two blanks
of indentation for files that people read. Strings are escaped only
where JSON demands it; other characters are written as they are.
-/
import SecurityConsole.Json.Value
import SecurityConsole.Number.Shortest
import SecurityConsole.Text.Hex

namespace SecurityConsole.Json

-- =============================================================== strings

/-- A character inside a string: quotes, backslashes and control
characters are escaped, the common ones by a letter. -/
def escapeChar (c : Char) : List Char :=
  if c = '"' then ['\\', '"']
  else if c = '\\' then ['\\', '\\']
  else if c = '\x08' then ['\\', 'b']
  else if c = '\x0c' then ['\\', 'f']
  else if c = '\n' then ['\\', 'n']
  else if c = '\r' then ['\\', 'r']
  else if c = '\t' then ['\\', 't']
  else if c.toNat < 0x20 then
    ['\\', 'u'] ++ Text.Hex.digits 4 c.toNat
  else [c]

/-- A string between quotes. -/
def quoteChars (s : List Char) : List Char :=
  '"' :: s.flatMap escapeChar ++ ['"']

-- =============================================================== compact

mutual
/-- The text of a value, without blanks. -/
def printChars : Json → List Char
  | .null => ['n', 'u', 'l', 'l']
  | .bool true => ['t', 'r', 'u', 'e']
  | .bool false => ['f', 'a', 'l', 's', 'e']
  | .int n => (toString n).toList
  | .real x => x.toText.toList
  | .str s => quoteChars s.toList
  | .arr items => '[' :: printItems true items
  | .obj members => '{' :: printMembers true members

/-- The items of an array, its end included. -/
def printItems (first : Bool) : List Json → List Char
  | [] => [']']
  | j :: rest =>
    (if first then [] else [',']) ++ printChars j ++ printItems false rest

/-- The members of an object, its end included. -/
def printMembers (first : Bool) : List (String × Json) → List Char
  | [] => ['}']
  | (name, j) :: rest =>
    (if first then [] else [',']) ++ quoteChars name.toList ++ [':'] ++
      printChars j ++ printMembers false rest
end

/-- The text of a value, without blanks. -/
def print (j : Json) : String := String.ofList j.printChars

-- ============================================================ table files

/-- One line of a table file: a name and its text, behind the line end
and indentation. -/
def tableLine (entry : String × String) : List Char :=
  '\n' :: ' ' :: ' ' :: quoteChars entry.1.toList ++ [':', ' '] ++
    quoteChars entry.2.toList

/-- The lines of a table file, separated by commas. -/
def tableLines : List (String × String) → List Char
  | [] => []
  | [e] => tableLine e
  | e :: rest => tableLine e ++ ',' :: tableLines rest

/-- An object whose members are all strings, one to a line. -/
def printTable (entries : List (String × String)) : String :=
  if entries.isEmpty then String.ofList ['{', '}']
  else String.ofList ('{' :: tableLines entries ++ ['\n', '}'])

end SecurityConsole.Json
