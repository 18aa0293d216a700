/-
The tokens of JSON text. The lexer is a machine that takes one glyph at
a time, so it reads texts of any length in one pass and is defined by
recursion on the text.

A string token keeps its pieces as written: characters, bytes that are
no character, and code units of `\u` escapes. Whether they spell a
string is asked only where the string is used, because a reader may
skip a member whose strings do not.

A run of letters, digits, signs and points is one word, which must be a
literal or a numeral: two words never stand side by side in JSON.
-/
import SecurityConsole.Text.Utf8
import SecurityConsole.Text.Hex
import SecurityConsole.Json.Numeral

namespace SecurityConsole.Json

open Text (Glyph Bytes)

-- ============================================================== strings

/-- One piece of a string as written. -/
inductive Piece where
  | char (c : Char)
  | stray (b : UInt8)
  | unit (u : Nat)
  deriving DecidableEq, Repr, Inhabited

/-- A string as written. -/
abbrev Pieces := List Piece

/-- The character of a pair of surrogate code units. -/
def surrogatePair (high low : Nat) : Char :=
  Char.ofNat (0x10000 + (high - 0xD800) * 0x400 + (low - 0xDC00))

/-- A code unit that opens a surrogate pair. -/
def isHigh (u : Nat) : Bool := 0xD800 ≤ u ∧ u < 0xDC00

/-- A code unit that closes a surrogate pair. -/
def isLow (u : Nat) : Bool := 0xDC00 ≤ u ∧ u < 0xE000

/-- The characters that pieces spell; `none` if a byte is stray or a
surrogate stands alone. -/
def spell? : Pieces → Option (List Char)
  | [] => some []
  | .char c :: rest => (spell? rest).map (c :: ·)
  | .stray _ :: _ => none
  | .unit u :: rest =>
    if isHigh u then
      match rest with
      | .unit v :: rest =>
        if isLow v then (spell? rest).map (surrogatePair u v :: ·) else none
      | _ => none
    else if isLow u then none
    else (spell? rest).map (Char.ofNat u :: ·)

/-- The string that pieces spell. -/
def string? (ps : Pieces) : Option String :=
  (spell? ps).map String.ofList

-- =============================================================== tokens

/-- A token of JSON text. -/
inductive Token where
  | openBrace
  | closeBrace
  | openBracket
  | closeBracket
  | colon
  | comma
  | null
  | bool (b : Bool)
  | number (n : Numeral)
  | string (ps : Pieces)
  deriving DecidableEq, Repr, Inhabited

/-- The token that a word is. -/
def wordToken? (w : List Char) : Option Token :=
  if w = ['n', 'u', 'l', 'l'] then some .null
  else if w = ['t', 'r', 'u', 'e'] then some (.bool true)
  else if w = ['f', 'a', 'l', 's', 'e'] then some (.bool false)
  else (Numeral.ofChars? w).map .number

/-- The token of a single character. -/
def punctuation? (c : Char) : Option Token :=
  if c = '{' then some .openBrace
  else if c = '}' then some .closeBrace
  else if c = '[' then some .openBracket
  else if c = ']' then some .closeBracket
  else if c = ':' then some .colon
  else if c = ',' then some .comma
  else none

/-- The blanks between tokens. -/
def isBlank (c : Char) : Bool :=
  c = ' ' ∨ c = '\n' ∨ c = '\t' ∨ c = '\r'

/-- The characters of words. -/
def isWordChar (c : Char) : Bool :=
  c.isAlphanum ∨ c = '-' ∨ c = '+' ∨ c = '.'

/-- The character that an escape stands for, other than `\u`. -/
def escaped? (c : Char) : Option Char :=
  if c = '"' then some '"'
  else if c = '\\' then some '\\'
  else if c = '/' then some '/'
  else if c = 'b' then some '\x08'
  else if c = 'f' then some '\x0c'
  else if c = 'n' then some '\n'
  else if c = 'r' then some '\r'
  else if c = 't' then some '\t'
  else none

-- ================================================================ lexer

/-- Where the lexer stands: between tokens, or in a word or a string
whose characters so far are kept last first. -/
inductive Mode where
  | between
  | word (seen : List Char)
  | quoted (seen : Pieces)
  | escape (seen : Pieces)
  | hex (seen : Pieces) (left : Nat) (value : Nat)
  deriving Repr, Inhabited

/-- The lexer's state: where it stands, and the tokens read, last
first. -/
structure Lexer where
  mode : Mode
  tokens : List Token
  deriving Repr, Inhabited

namespace Lexer

/-- A glyph between tokens. -/
def stepBetween (tokens : List Token) : Glyph → Option Lexer
  | .stray _ => none
  | .char c =>
    if isBlank c then some ⟨.between, tokens⟩
    else if c = '"' then some ⟨.quoted [], tokens⟩
    else if isWordChar c then some ⟨.word [c], tokens⟩
    else (punctuation? c).map fun t => ⟨.between, t :: tokens⟩

/-- Close a word. -/
def closeWord (seen : List Char) (tokens : List Token) :
    Option (List Token) :=
  (wordToken? seen.reverse).map (· :: tokens)

/-- One glyph. -/
def step (l : Lexer) (g : Glyph) : Option Lexer :=
  match l.mode, g with
  | .between, g => stepBetween l.tokens g
  | .word _, .stray _ => none
  | .word seen, .char c =>
    if isWordChar c then some ⟨.word (c :: seen), l.tokens⟩
    else (closeWord seen l.tokens).bind (stepBetween · (.char c))
  | .quoted seen, .stray b => some ⟨.quoted (.stray b :: seen), l.tokens⟩
  | .quoted seen, .char c =>
    if c = '"' then some ⟨.between, .string seen.reverse :: l.tokens⟩
    else if c = '\\' then some ⟨.escape seen, l.tokens⟩
    else if c.toNat < 0x20 then none
    else some ⟨.quoted (.char c :: seen), l.tokens⟩
  | .escape seen, .char c =>
    if c = 'u' then some ⟨.hex seen 4 0, l.tokens⟩
    else (escaped? c).map fun d => ⟨.quoted (.char d :: seen), l.tokens⟩
  | .escape _, .stray _ => none
  | .hex seen left value, .char c =>
    (Text.Hex.value? c).map fun d =>
      let value := 16 * value + d
      if left ≤ 1 then ⟨.quoted (.unit value :: seen), l.tokens⟩
      else ⟨.hex seen (left - 1) value, l.tokens⟩
  | .hex _ _ _, .stray _ => none

/-- All glyphs of a text. -/
def run (l : Lexer) : List Glyph → Option Lexer
  | [] => some l
  | g :: rest => (l.step g).bind (·.run rest)

/-- The tokens at the end of the text, in order. -/
def finish (l : Lexer) : Option (List Token) :=
  match l.mode with
  | .between => some l.tokens.reverse
  | .word seen => (closeWord seen l.tokens).map List.reverse
  | _ => none

end Lexer

/-- The tokens of a text. -/
def tokens? (glyphs : List Glyph) : Option (List Token) :=
  (Lexer.run ⟨.between, []⟩ glyphs).bind Lexer.finish

end SecurityConsole.Json
