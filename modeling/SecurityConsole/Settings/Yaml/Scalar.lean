/-
The three ways of YAML to write a scalar: plain, between quotes, and as
a block of lines. Where a scalar goes on in the next line, one new line
stands for a space and of more the first does not count.
-/
import SecurityConsole.Settings.Yaml.Marks
import SecurityConsole.Text.Hex

namespace SecurityConsole.Settings.Yaml

-- ================================================================ folding

/-- Blanks between two parts of a scalar: spaces on one line, or new
lines. -/
structure Blanks where
  /-- The spaces, last first. -/
  spaces : List Char
  breaks : Nat
  deriving DecidableEq, Repr, Inhabited

namespace Blanks

/-- No blanks. -/
def none : Blanks := ⟨[], 0⟩

/-- A space; at the beginning of a line it does not count. -/
def space (b : Blanks) (c : Char) : Blanks :=
  if b.breaks = 0 then { b with spaces := c :: b.spaces } else b

/-- A new line; spaces before it do not count. -/
def newLine (b : Blanks) : Blanks := ⟨[], b.breaks + 1⟩

/-- What the blanks stand for, last first: one new line is a space, and
of more the first does not count. -/
def folded (b : Blanks) : List Char :=
  if b.breaks = 0 then b.spaces
  else if b.breaks = 1 then [' ']
  else List.replicate (b.breaks - 1) '\n'

end Blanks

-- ========================================================== quoted scalars

/-- The rest of a scalar in single quotes; two quotes stand for one. -/
def single? (out : List Char) (b : Blanks) :
    Input → Option (List Char × Input)
  | [] => none
  | ⟨'\'', _⟩ :: ⟨'\'', _⟩ :: rest =>
    single? ('\'' :: (b.folded ++ out)) .none rest
  | m :: rest =>
    if m.char = '\'' then some ((b.folded ++ out).reverse, rest)
    else if isSpace m.char then single? out (b.space m.char) rest
    else if m.char = '\n' then single? out b.newLine rest
    else single? (m.char :: (b.folded ++ out)) .none rest

/-- What a letter behind a backslash stands for. -/
def escapes : List (Char × Char) :=
  [('0', '\x00'), ('a', '\x07'), ('b', '\x08'), ('t', '\t'), ('\t', '\t'),
   ('n', '\n'), ('v', '\x0b'), ('f', '\x0c'), ('r', '\r'), ('e', '\x1b'),
   (' ', ' '), ('"', '"'), ('/', '/'), ('\\', '\\'), ('N', '\u0085'),
   ('_', '\u00a0'), ('L', '\u2028'), ('P', '\u2029')]

/-- How many hexadecimal digits follow a letter behind a backslash. -/
def hexWidth? (c : Char) : Option Nat :=
  if c = 'x' then some 2
  else if c = 'u' then some 4
  else if c = 'U' then some 8
  else none

/-- The character of a number, if it has one. -/
def charOf? (n : Nat) : Option Char :=
  if n.isValidChar then some (Char.ofNat n) else none

/-- What stands between the backslash and the rest of a scalar. -/
inductive Escape where
  | none
  /-- Behind a backslash. -/
  | slash
  /-- So many digits are still to come; the number of those read. -/
  | hex (left value : Nat)
  /-- At the beginning of a line that a backslash joins to the one
  before. -/
  | joined
  deriving DecidableEq, Repr, Inhabited

/-- The rest of a scalar in double quotes. -/
def double? (out : List Char) (b : Blanks) (e : Escape) :
    Input → Option (List Char × Input)
  | [] => none
  | m :: rest =>
    match e with
    | .hex left value =>
      match Text.Hex.value? m.char with
      | none => none
      | some d =>
        let value := 16 * value + d
        if left ≤ 1 then
          match charOf? value with
          | some c => double? (c :: out) .none .none rest
          | none => none
        else double? out .none (.hex (left - 1) value) rest
    | .slash =>
      if m.char = '\n' then double? out .none .joined rest
      else
        match hexWidth? m.char, escapes.lookup m.char with
        | some n, _ => double? out .none (.hex n 0) rest
        | none, some c => double? (c :: out) .none .none rest
        | none, none => none
    | .joined =>
      if isSpace m.char ∨ m.char = '\n' then double? out .none .joined rest
      else if m.char = '"' then some (out.reverse, rest)
      else if m.char = '\\' then double? out .none .slash rest
      else double? (m.char :: out) .none .none rest
    | .none =>
      if m.char = '"' then some ((b.folded ++ out).reverse, rest)
      else if m.char = '\\' then double? (b.folded ++ out) .none .slash rest
      else if isSpace m.char then double? out (b.space m.char) .none rest
      else if m.char = '\n' then double? out b.newLine .none rest
      else double? (m.char :: (b.folded ++ out)) .none .none rest

/-- A quoted scalar. -/
def quoted? : Input → Option (List Char × Input)
  | ⟨'"', _⟩ :: rest => double? [] .none .none rest
  | ⟨'\'', _⟩ :: rest => single? [] .none rest
  | _ => none

-- =========================================================== plain scalars

/-- Whether a plain scalar may begin here. -/
def beginsPlain (flow : Bool) : Input → Bool
  | [] => false
  | m :: rest =>
    if m.char ∈ ['-', '?', ':'] then
      !atBreak rest && !(flow && m.char ≠ '-')
    else
      !isFlow m.char &&
        m.char ∉ ['#', '&', '*', '!', '|', '>', '\'', '"', '%', '@', '\x60']

/-- Whether a colon here ends a scalar. -/
def endsKey (flow : Bool) (rest : Input) : Bool :=
  atBreak rest || (flow && rest.head?.any fun m => isFlow m.char)

/-- A plain scalar, and whether it spans lines. Between brackets it may
go on anywhere on the next line, elsewhere only from a column on. `left`
is what is left behind the part already read. -/
def plainFrom (flow : Bool) (column : Nat) (out : List Char) (spans : Bool)
    (b : Blanks) (left : Input) : Input → (List Char × Bool) × Input
  | [] => ((out.reverse, spans), left)
  | m :: rest =>
    if isSpace m.char then
      plainFrom flow column out spans (b.space m.char) left rest
    else if m.char = '\n' then
      plainFrom flow column out spans b.newLine left rest
    else if
        (m.char = '#' ∧ b ≠ .none) ∨ (m.char = ':' ∧ endsKey flow rest) ∨
        (flow ∧ isFlow m.char) ∨
        (b.breaks ≠ 0 ∧ !flow ∧ m.column < column) then
      ((out.reverse, spans), left)
    else
      plainFrom flow column (m.char :: (b.folded ++ out))
        (spans || b.breaks ≠ 0) .none rest rest

/-- A plain scalar, and whether it spans lines. -/
def plain? (flow : Bool) (column : Nat) (s : Input) :
    Option ((List Char × Bool) × Input) :=
  if beginsPlain flow s then
    some (plainFrom flow column [] false .none s s)
  else none

-- ========================================================= block scalars

/-- What becomes of the new lines that a block of lines ends in. -/
inductive Chomping where
  /-- None is kept. -/
  | strip
  /-- One is kept. -/
  | clip
  /-- All are kept. -/
  | keep
  deriving DecidableEq, Repr, Inhabited

/-- How a block of lines is written: whether its new lines are folded,
what becomes of the last ones, and how far it is indented if that is
said. -/
structure BlockStyle where
  folds : Bool
  chomping : Chomping
  indent : Option Nat
  deriving DecidableEq, Repr, Inhabited

/-- The indicators behind the first one of a block scalar, of each kind
at most one, and what is left behind them. -/
def blockStyle? (style : BlockStyle) :
    Input → Option (BlockStyle × Input)
  | [] => some (style, [])
  | m :: rest =>
    let chomp (c : Chomping) :=
      if style.chomping = .clip then
        blockStyle? { style with chomping := c } rest
      else none
    if m.char = '-' then chomp .strip
    else if m.char = '+' then chomp .keep
    else if m.char.isDigit then
      if style.indent.isNone ∧ m.char ≠ '0' then
        blockStyle? { style with indent := some (m.char.toNat - '0'.toNat) }
          rest
      else none
    else some (style, m :: rest)

/-- The lines of a text, each up to its new line. -/
def linesOf (s : Input) : List Input :=
  s.foldr (fun m lines =>
    if m.char = '\n' then [] :: lines
    else
      match lines with
      | [] => [[m]]
      | line :: lines => (m :: line) :: lines) [[]]

/-- Whether a line has nothing but spaces before a column. -/
def isIndented (column : Nat) (line : Input) : Bool :=
  (line.take column).all (·.char = ' ')

/-- Whether a line belongs to a block that is indented to a column. -/
def inBlock (column : Nat) (line : Input) : Bool :=
  isIndented column line &&
    (column < line.length || line.all (·.char = ' '))

/-- The column that the first lines of a block are indented to: that of
the first line with content, or that of the longest before it. -/
def blockColumn (lines : List Input) : Nat :=
  let indent (line : Input) := (line.takeWhile (·.char = ' ')).length
  match lines with
  | [] => 0
  | line :: rest =>
    if indent line < line.length then indent line
    else max (indent line) (blockColumn rest)

/-- The text of a block's lines. Of the line before, it has to be known
whether it was there, whether it began with a space or a tab, and how
many empty lines followed it. -/
def joinLines (folds : Bool) (before : Option Bool) (empty : Nat) :
    List (List Char) → List Char
  | [] => []
  | [] :: rest => joinLines folds before (empty + 1) rest
  | line :: rest =>
    let indented := line.head?.any isSpace
    let breaks := List.replicate empty '\n'
    let gap := match before with
      | none => breaks
      | some wasIndented =>
        if folds ∧ !wasIndented ∧ !indented then
          if empty = 0 then [' '] else breaks
        else '\n' :: breaks
    gap ++ line ++ joinLines folds (some indented) 0 rest

/-- The new lines at the end of a block. -/
def lastBreaks (chomping : Chomping) (content empty : Nat) : List Char :=
  match chomping with
  | .strip => []
  | .clip => if content = 0 then [] else ['\n']
  | .keep => List.replicate (if content = 0 then empty else empty + 1) '\n'

/-- A scalar written as a block of lines that stand in a column or behind
it, and what is left behind its last line. -/
def block? (column : Nat) (s : Input) : Option (List Char × Input) :=
  let style? := match s with
    | ⟨'|', _⟩ :: rest => blockStyle? ⟨false, .clip, none⟩ rest
    | ⟨'>', _⟩ :: rest => blockStyle? ⟨true, .clip, none⟩ rest
    | _ => none
  match style? with
  | none => none
  | some (style, rest) =>
    if atBreak rest ∧ atLineEnd rest then
      let below := (skipRest rest).drop 1
      let column := match style.indent with
        | some n => (column - 1) + n
        | none => max column (blockColumn (linesOf below))
      let lines := (linesOf below).takeWhile (inBlock column)
      let texts := lines.map fun line => (line.drop column).map (·.char)
      let empty := (texts.reverse.takeWhile List.isEmpty).length
      let content := texts.length - empty
      let left := below.drop ((lines.map (·.length + 1)).foldl (· + ·) 0)
      some (joinLines style.folds none 0 (texts.take content) ++
        lastBreaks style.chomping content
          (if left.isEmpty then empty - 1 else empty), left)
    else none

end SecurityConsole.Settings.Yaml
