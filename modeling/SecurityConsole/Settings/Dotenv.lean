/-
Variables from a file beside the program: lines of a name, an equals sign
and a value. A value may be quoted, may go on over several lines inside
quotes, and may refer to variables by a dollar sign. The file is read up
to its first bad line, and never changes a variable that is already set.
-/
import SecurityConsole.Settings.Environment
import SecurityConsole.Text.Blank

namespace SecurityConsole.Settings.Dotenv

open Text (isBlank trimBlankStart trimBlanks)

-- ================================================================== lines

/-- Where in a line its reader is, as far as quotes go. -/
inductive LineState where
  | plain
  /-- Behind a blank, where a comment may begin. -/
  | blank
  /-- Behind a backslash. -/
  | escape
  | single
  | singleEscape
  | double
  | doubleEscape
  deriving DecidableEq, Repr, Inhabited

namespace LineState

/-- One character that begins no comment. -/
def step (s : LineState) (c : Char) : LineState :=
  let open_ : LineState :=
    if c = '\\' then .escape
    else if c = '"' then .double
    else if c = '\'' then .single
    else .plain
  match s with
  | .plain => if isBlank c ∧ c ≠ '\n' ∧ c ≠ '\r' then .blank else open_
  | .blank => open_
  | .escape => .plain
  | .single =>
    if c = '\\' then .singleEscape else if c = '\'' then .plain else .single
  | .singleEscape => .single
  | .double =>
    if c = '\\' then .doubleEscape else if c = '"' then .plain else .double
  | .doubleEscape => .double

end LineState

/-- The text up to the end of the line, that end included, and the
rest. -/
def rawLine : List Char → List Char × List Char
  | [] => ([], [])
  | c :: rest =>
    if c = '\n' then ([c], rest)
    else
      let (line, rest) := rawLine rest
      (c :: line, rest)

/-- Whether a text is a comment from its beginning on. -/
def isComment (s : List Char) : Bool := (trimBlankStart s).head? = some '#'

/-- What comes of the characters of a line: those before a comment if one
begins in it, or the state at its end. -/
def scanLine (read : List Char) (s : LineState) :
    List Char → List Char ⊕ LineState
  | [] => .inr s
  | c :: rest =>
    if s = .blank ∧ c = '#' then .inl read.reverse
    else scanLine (c :: read) (s.step c) rest

/-- A line without its end. -/
def dropEnd (s : List Char) : List Char :=
  match s.reverse with
  | '\n' :: '\r' :: rest => rest.reverse
  | '\n' :: rest => rest.reverse
  | _ => s

/-- A logical line, and what is behind it; `none` if the text ends inside
quotes or behind a blank. Lines are joined until quotes are closed. The
first argument bounds the number of lines. -/
def logicalLine? (read : List Char) (s : LineState) :
    Nat → List Char → Option (List Char × List Char)
  | 0, _ => none
  | n + 1, text =>
    let (line, rest) := rawLine text
    let all := read ++ line
    if line.isEmpty then none
    else if isComment all then some ([], rest)
    else
      match scanLine [] s line with
      | .inl before => some (read ++ before, rest)
      | .inr .plain => some (dropEnd all, rest)
      | .inr s => logicalLine? all s n rest

-- ================================================================= values

/-- A reference to a variable while it is read. -/
inductive Reference where
  | none
  /-- Behind a dollar sign, with the letters read so far, last first. -/
  | bare (name : List Char)
  /-- Between braces. -/
  | braced (name : List Char)
  deriving DecidableEq, Repr, Inhabited

/-- The reader of a value. -/
structure ValueState where
  single : Bool
  double : Bool
  escaped : Bool
  /-- Whether only a comment may follow. -/
  ended : Bool
  reference : Reference
  /-- The value read so far, last first. -/
  out : List Char
  deriving DecidableEq, Repr, Inhabited

namespace ValueState

/-- Before the first character. -/
def initial : ValueState := ⟨false, false, false, false, .none, []⟩

/-- Add a character to the value. -/
def push (v : ValueState) (c : Char) : ValueState :=
  { v with out := c :: v.out }

/-- Add the value of a variable, the letters of whose name come last
first. -/
def expand (env : Environment) (name : List Char) (v : ValueState) :
    ValueState :=
  let value := (env.value? (String.ofList name.reverse)).getD ""
  { v with out := value.toList.reverse ++ v.out, reference := .none }

/-- Whether a character belongs to a name behind a dollar sign. Beyond
ASCII all do. -/
def isNameChar (c : Char) : Bool := c.isAlphanum || 0x80 ≤ c.toNat

/-- A character behind a backslash. -/
def unescape? (v : ValueState) (c : Char) : Option ValueState :=
  let v := { v with escaped := false }
  if c ∈ ['\\', '\'', '"', '$', ' '] then some (v.push c)
  else if c = 'n' then some (v.push '\n')
  else none

/-- A character outside of references, single quotes and escapes. -/
def plainStep (v : ValueState) (c : Char) : ValueState :=
  if c = '$' then { v with reference := .bare [] }
  else if c = '\\' then { v with escaped := true }
  else if v.double then
    if c = '"' then { v with double := false } else v.push c
  else if c = '\'' then { v with single := true }
  else if c = '"' then { v with double := true }
  else if c = ' ' ∨ c = '\t' then { v with ended := true }
  else v.push c

/-- One character; `none` if it is out of place. -/
def step? (env : Environment) (v : ValueState) (c : Char) :
    Option ValueState :=
  if v.escaped then v.unescape? c
  else if v.single then
    some (if c = '\'' then { v with single := false } else v.push c)
  else
    match v.reference with
    | .bare name =>
      if isNameChar c then some { v with reference := .bare (c :: name) }
      else if c = '\x7b' ∧ name = [] then
        some { v with reference := .braced [] }
      else
        let v := v.expand env name
        some (if c = '$' then { v with reference := .bare [] } else v.push c)
    | .braced name =>
      some
        (if c = '\x7d' then v.expand env name
        else { v with reference := .braced (c :: name) })
    | .none => some (v.plainStep c)

end ValueState

/-- The value at its end; `none` if a quote or a brace is still open. -/
def finish? (env : Environment) (v : ValueState) : Option String :=
  if v.single ∨ v.double then none
  else
    match v.reference with
    | .braced _ => none
    | .bare name => some (String.ofList (v.expand env name).out.reverse)
    | .none => some (String.ofList v.out.reverse)

/-- Read a value to its end, or to a comment behind it. -/
def readValue? (env : Environment) (v : ValueState) :
    List Char → Option String
  | [] => finish? env v
  | c :: rest =>
    if v.ended then
      if c = ' ' ∨ c = '\t' then readValue? env v rest
      else if c = '#' then finish? env v
      else none
    else (v.step? env c).bind fun v => readValue? env v rest

-- ============================================================ definitions

/-- What a line says. -/
inductive Line where
  /-- Nothing. -/
  | blank
  /-- That a variable has a value. -/
  | definition (name value : String)
  deriving DecidableEq, Repr, Inhabited

/-- Whether a name may begin with a character. -/
def beginsName (c : Char) : Bool := c.isAlpha || c = '_'

/-- Whether a name may have a character. -/
def continuesName (c : Char) : Bool := c.isAlphanum || c = '_' || c = '.'

/-- Read a name, and the blanks behind it. -/
def name? (s : List Char) : Option (List Char × List Char) :=
  if s.head?.any beginsName then
    some (s.takeWhile continuesName,
      trimBlankStart (s.dropWhile continuesName))
  else none

/-- What stands behind an equals sign, without blanks before it. -/
def behindEquals? : List Char → Option (List Char)
  | '=' :: rest => some (trimBlankStart rest)
  | _ => none

/-- The word that may stand before a definition. -/
def exportWord : List Char := ['e', 'x', 'p', 'o', 'r', 't']

/-- The name of a definition, and what stands behind its equals sign. A
name `export` that no equals sign follows is a word before the name. -/
def head? (s : List Char) : Option (List Char × List Char) := do
  let (name, rest) ← name? s
  match behindEquals? rest with
  | some rest => some (name, rest)
  | none =>
    if name = exportWord then
      let (name, rest) ← name? rest
      (behindEquals? rest).map (name, ·)
    else none

/-- Read a logical line; `none` if it is bad. -/
def readLine? (env : Environment) (s : List Char) : Option Line :=
  let s := trimBlanks s
  if s.isEmpty ∨ isComment s then some .blank
  else
    match head? s with
    | none => none
    | some (name, value) =>
      let value? :=
        if value.isEmpty ∨ isComment value then some ""
        else readValue? env .initial value
      value?.map (.definition (String.ofList name))

/-- Read the lines of a text up to the first bad one. The first argument
bounds their number. -/
def readLines (env : Environment) : Nat → List Char → Environment
  | 0, _ => env
  | n + 1, text =>
    match logicalLine? [] .plain (text.length + 1) text with
    | none => env
    | some (line, rest) =>
      match readLine? env line with
      | none => env
      | some .blank => readLines env n rest
      | some (.definition name value) =>
        readLines (env.add name value) n rest

/-- The environment with the variables of a file. -/
def load (env : Environment) (text : String) : Environment :=
  readLines env (text.length + 1) text.toList

end SecurityConsole.Settings.Dotenv
