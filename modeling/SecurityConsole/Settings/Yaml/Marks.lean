/-
YAML text as characters with the column each stands in, so that a reader
needs to know nothing but what is left of the text; and the gaps between
its parts.
-/

namespace SecurityConsole.Settings.Yaml

/-- A character and its column. -/
structure Mark where
  char : Char
  column : Nat
  deriving DecidableEq, Repr, Inhabited

/-- What is left of a text. -/
abbrev Input := List Mark

/-- The characters of a text with their columns, from a column on. Every
way to end a line becomes one. -/
def marks (column : Nat) : List Char → Input
  | [] => []
  | '\r' :: '\n' :: rest => ⟨'\n', column⟩ :: marks 0 rest
  | c :: rest =>
    if c = '\n' ∨ c = '\r' then ⟨'\n', column⟩ :: marks 0 rest
    else ⟨c, column⟩ :: marks (column + 1) rest

/-- Whether a character is a space or a tab. -/
def isSpace (c : Char) : Bool := c = ' ' || c = '\t'

/-- Whether the text ends here, or goes on with a space or a new line. -/
def atBreak : Input → Bool
  | [] => true
  | m :: _ => isSpace m.char || m.char = '\n'

/-- Whether a character has a meaning of its own between brackets. -/
def isFlow (c : Char) : Bool := c ∈ [',', '[', ']', '\x7b', '\x7d']

/-- The column of the next character. -/
def columnOf : Input → Nat
  | [] => 0
  | m :: _ => m.column

-- =================================================================== gaps

/-- What is left behind spaces. -/
def skipSpaces (s : Input) : Input := s.dropWhile fun m => isSpace m.char

/-- What is left behind the line. -/
def skipComment (s : Input) : Input := s.dropWhile fun m => m.char ≠ '\n'

/-- What is left behind spaces and a comment on the same line. -/
def skipRest (s : Input) : Input :=
  match skipSpaces s with
  | m :: rest => if m.char = '#' then skipComment rest else m :: rest
  | [] => []

/-- What is left behind spaces, comments and new lines. The flag tells
whether a comment has begun. -/
def skipGapFrom (comment : Bool) : Input → Input
  | [] => []
  | m :: rest =>
    if m.char = '\n' then skipGapFrom false rest
    else if comment || m.char = '#' then skipGapFrom true rest
    else if isSpace m.char then skipGapFrom false rest
    else m :: rest

/-- What is left behind spaces, comments and new lines. -/
def skipGap (s : Input) : Input := skipGapFrom false s

/-- Whether nothing but spaces and a comment is left of the line. -/
def atLineEnd (s : Input) : Bool :=
  match skipRest s with
  | [] => true
  | m :: _ => m.char = '\n'

end SecurityConsole.Settings.Yaml
