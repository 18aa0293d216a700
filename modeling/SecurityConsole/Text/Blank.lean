/-
Blank characters, as the standard on text counts them, and texts without
them at the ends.
-/

namespace SecurityConsole.Text

/-- The blank characters beyond the plain ones. -/
def wideBlanks : List Nat :=
  [0x85, 0xa0, 0x1680, 0x2028, 0x2029, 0x202f, 0x205f, 0x3000]

/-- Whether a character is blank. -/
def isBlank (c : Char) : Bool :=
  c = ' ' || (0x09 ≤ c.toNat && c.toNat ≤ 0x0d) ||
    (0x2000 ≤ c.toNat && c.toNat ≤ 0x200a) || c.toNat ∈ wideBlanks

/-- A text without the blanks it begins with. -/
def trimBlankStart (s : List Char) : List Char := s.dropWhile isBlank

/-- A text without the blanks at its ends. -/
def trimBlanks (s : List Char) : List Char :=
  (trimBlankStart (trimBlankStart s).reverse).reverse

end SecurityConsole.Text
