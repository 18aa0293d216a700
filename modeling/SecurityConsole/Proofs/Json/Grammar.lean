/-
The grammar of JSON text, as RFC 8259 has it.

It says which texts a document has, not how one is read. A document gives
a sequence of tokens (`Document.tokens`), every token has texts of its
own (`TokenText`), and blanks may stand wherever tokens meet (`Spaced`).
Strings and numbers have many texts: a character may be written as it is
or escaped, by a letter or by four digits in either case, and an exponent
has two letters and three signs.
-/
import SecurityConsole.Json.Document

namespace SecurityConsole.Json

-- ============================================================== strings

/-- A hexadecimal digit of that value, in either case. -/
def IsHex (value : Nat) (c : Char) : Prop :=
  value < 16 ∧ (c = Text.Hex.lower value ∨ c = Text.Hex.upper value)

/-- The letters of escapes, with the characters that they stand for. -/
def escapeLetters : List (Char × Char) :=
  [('"', '"'), ('\\', '\\'), ('/', '/'), ('b', '\x08'), ('f', '\x0c'),
    ('n', '\n'), ('r', '\r'), ('t', '\t')]

/-- The texts of a piece of a string. -/
inductive PieceText : Piece → List Char → Prop where
  /-- All but quotes, backslashes and control characters may stand for
  themselves. -/
  | plain {c : Char} (hquote : c ≠ '"') (hslash : c ≠ '\\')
      (hlow : 0x20 ≤ c.toNat) : PieceText (.char c) [c]
  | letter {l c : Char} (h : (l, c) ∈ escapeLetters) :
      PieceText (.char c) ['\\', l]
  | unit {i j k l : Nat} {a b c d : Char} (ha : IsHex i a) (hb : IsHex j b)
      (hc : IsHex k c) (hd : IsHex l d) :
      PieceText (.unit (16 * (16 * (16 * i + j) + k) + l))
        ['\\', 'u', a, b, c, d]

/-- The texts of a string, without its quotes. -/
inductive StringText : Pieces → List Char → Prop where
  | nil : StringText [] []
  | cons {p : Piece} {ps : Pieces} {s t : List Char} (h : PieceText p s)
      (k : StringText ps t) : StringText (p :: ps) (s ++ t)

-- ============================================================== numbers

/-- One digit or more. -/
def IsDigits (s : List Char) : Prop := s ≠ [] ∧ ∀ c ∈ s, c.isDigit = true

inductive FractionText : Option (List Char) → List Char → Prop where
  | none : FractionText none []
  | some {ds : List Char} (h : IsDigits ds) :
      FractionText (some ds) ('.' :: ds)

/-- The signs of an exponent that is negative, or that is not. -/
def exponentSigns (negative : Bool) : List (List Char) :=
  if negative then [['-']] else [[], ['+']]

inductive ExponentText : Option (Bool × List Char) → List Char → Prop where
  | none : ExponentText none []
  | some {negative : Bool} {e : Char} {sign ds : List Char}
      (he : e = 'e' ∨ e = 'E') (hsign : sign ∈ exponentSigns negative)
      (h : IsDigits ds) :
      ExponentText (some (negative, ds)) (e :: (sign ++ ds))

/-- The sign of a number. -/
def minus (negative : Bool) : List Char := if negative then ['-'] else []

/-- The texts of a number: a zero in front stands alone. -/
inductive NumberText : Numeral → List Char → Prop where
  | mk {negative : Bool} {whole : List Char}
      {fraction : Option (List Char)} {exponent : Option (Bool × List Char)}
      {s t : List Char} (hwhole : IsDigits whole)
      (hzero : whole.head? = some '0' → whole = ['0'])
      (hs : FractionText fraction s) (ht : ExponentText exponent t) :
      NumberText ⟨negative, whole, fraction, exponent⟩
        (minus negative ++ (whole ++ (s ++ t)))

-- =============================================================== tokens

/-- The texts of a token. -/
inductive TokenText : Token → List Char → Prop where
  | openBrace : TokenText .openBrace ['{']
  | closeBrace : TokenText .closeBrace ['}']
  | openBracket : TokenText .openBracket ['[']
  | closeBracket : TokenText .closeBracket [']']
  | colon : TokenText .colon [':']
  | comma : TokenText .comma [',']
  | null : TokenText .null ['n', 'u', 'l', 'l']
  | isTrue : TokenText (.bool true) ['t', 'r', 'u', 'e']
  | isFalse : TokenText (.bool false) ['f', 'a', 'l', 's', 'e']
  | number {n : Numeral} {s : List Char} (h : NumberText n s) :
      TokenText (.number n) s
  | string {ps : Pieces} {s : List Char} (h : StringText ps s) :
      TokenText (.string ps) ('"' :: (s ++ ['"']))

/-- The blanks. -/
def blanks : List Char := [' ', '\t', '\n', '\r']

/-- The texts of tokens, with blanks before, between and behind them. -/
inductive Spaced : List Token → List Char → Prop where
  | nil : Spaced [] []
  | blank {ts : List Token} {c : Char} {s : List Char} (hc : c ∈ blanks)
      (h : Spaced ts s) : Spaced ts (c :: s)
  | token {t : Token} {ts : List Token} {s r : List Char}
      (ht : TokenText t s) (h : Spaced ts r) : Spaced (t :: ts) (s ++ r)

-- ============================================================ documents

namespace Document

mutual
/-- The tokens of a document. -/
def tokens : Document → List Token
  | .null => [.null]
  | .bool b => [.bool b]
  | .number n => [.number n]
  | .string ps => [.string ps]
  | .array items => .openBracket :: itemTokens true items
  | .object members => .openBrace :: memberTokens true members

/-- The tokens of the items of an array, its end included. -/
def itemTokens (first : Bool) : List Document → List Token
  | [] => [.closeBracket]
  | d :: rest =>
    (if first then [] else [.comma]) ++ (tokens d ++ itemTokens false rest)

/-- The tokens of the members of an object, its end included. -/
def memberTokens (first : Bool) : List (Pieces × Document) → List Token
  | [] => [.closeBrace]
  | (ps, d) :: rest =>
    (if first then [] else [.comma])
      ++ .string ps :: .colon :: (tokens d ++ memberTokens false rest)
end

/-- The texts of a document. -/
def HasText (d : Document) (s : List Char) : Prop := Spaced d.tokens s

end Document
end SecurityConsole.Json
