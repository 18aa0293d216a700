/-
Lists and tables in YAML text: between brackets, or as blocks by the
column their lines begin in. Every node may have an anchor and a tag
before it.
-/
import SecurityConsole.Settings.Yaml.Node
import SecurityConsole.Settings.Yaml.Scalar
import SecurityConsole.Settings.Yaml.Value

namespace SecurityConsole.Settings.Yaml

-- ============================================================= properties

/-- What may stand before a node. -/
structure Properties where
  anchor : Option String
  tag : Option Tag
  deriving DecidableEq, Repr, Inhabited

namespace Properties

/-- Nothing stands before the node. -/
def none : Properties := ⟨.none, .none⟩

/-- The node with its anchor. -/
def apply (p : Properties) (node : Node) : Node :=
  match p.anchor with
  | some anchor => .anchored anchor node
  | .none => node

/-- The node that has nothing but its properties. -/
def emptyNode? (p : Properties) : Option Node :=
  if p = Properties.none then some (.leaf .null)
  else (plainValue? p.tag []).map fun t => p.apply (.leaf t)

end Properties

/-- A word up to a space, a new line or a bracket, and what is left
behind it. -/
def word (s : Input) : List Char × Input :=
  let inWord (m : Mark) := !(isSpace m.char || m.char = '\n' || isFlow m.char)
  ((s.takeWhile inWord).map (·.char), s.dropWhile inWord)

/-- The anchor and the tag before a node on the same line, in any order,
and what is left behind them. `none` if one is malformed or there are two
of a kind. The first argument bounds how many are read. -/
def propertiesFrom? : Nat → Properties → Input →
    Option (Properties × Input)
  | 0, _, _ => none
  | n + 1, p, s =>
    match s with
    | ⟨'&', _⟩ :: rest =>
      let (name, rest) := word rest
      if name = [] ∨ p.anchor.isSome then none
      else
        propertiesFrom? n { p with anchor := some (String.ofList name) }
          (skipSpaces rest)
    | ⟨'!', _⟩ :: rest =>
      let (name, rest) := word rest
      match Tag.ofChars? name with
      | some tag =>
        if p.tag.isSome then none
        else propertiesFrom? n { p with tag := some tag } (skipSpaces rest)
      | none => none
    | s => some (p, s)

/-- The anchor and the tag before a node. -/
def properties? (s : Input) : Option (Properties × Input) :=
  propertiesFrom? 3 .none s

/-- An alias. -/
def alias? : Input → Option (Node × Input)
  | ⟨'*', _⟩ :: rest =>
    let (name, rest) := word rest
    if name = [] then none else some (.alias (String.ofList name), rest)
  | _ => none

/-- A scalar that is plain or quoted, or an alias, and whether it spans
lines. -/
def atom? (flow : Bool) (column : Nat) (tag : Option Tag) (s : Input) :
    Option ((Node × Bool) × Input) :=
  match alias? s, quoted? s, plain? flow column s with
  | some (node, rest), _, _ => some ((node, false), rest)
  | none, some (cs, rest), _ =>
    let spans := (s.take (s.length - rest.length)).any (·.char = '\n')
    some ((.leaf (.text (String.ofList cs)), spans), rest)
  | none, none, some ((cs, spans), rest) =>
    (plainValue? tag cs).map fun t => ((.leaf t, spans), rest)
  | none, none, none => none

-- =================================================================== keys

/-- A key at the beginning of an entry, and what is left behind its
colon. A key is on one line. -/
def key? (s : Input) : Option (Node × Input) :=
  match properties? s with
  | none => none
  | some (p, s) =>
    match atom? false 0 p.tag s with
    | some ((node, false), rest) =>
      match skipSpaces rest with
      | ⟨':', _⟩ :: rest =>
        if atBreak rest then some (p.apply node, rest) else none
      | _ => none
    | _ => none

-- =================================================================== flow

mutual
/-- A value between brackets. The first argument bounds the depth and
length of what is read. -/
def flow? : Nat → Input → Option (Node × Input)
  | 0, _ => none
  | n + 1, s =>
    match properties? (skipGap s) with
    | none => none
    | some (p, s) =>
      let found := match skipGap s with
        | ⟨'[', _⟩ :: rest => flowItems? n [] rest
        | ⟨'\x7b', _⟩ :: rest => flowEntries? n [] rest
        | s => (atom? true 0 p.tag s).map fun ((node, _), rest) => (node, rest)
      match found with
      | some (node, rest) => some (p.apply node, rest)
      | none =>
        if p = Properties.none then none
        else p.emptyNode?.map fun node => (node, s)

/-- The items of a list, to its bracket; those read come last first. -/
def flowItems? : Nat → List Node → Input → Option (Node × Input)
  | 0, _, _ => none
  | n + 1, items, s =>
    match skipGap s with
    | ⟨']', _⟩ :: rest => some (.list items.reverse, rest)
    | s =>
      match flow? n s with
      | none => none
      | some (node, rest) =>
        match skipGap rest with
        | ⟨',', _⟩ :: rest => flowItems? n (node :: items) rest
        | ⟨']', _⟩ :: rest => some (.list (node :: items).reverse, rest)
        | _ => none

/-- The entries of a table, to its brace; those read come last first. -/
def flowEntries? :
    Nat → List (Node × Node) → Input → Option (Node × Input)
  | 0, _, _ => none
  | n + 1, entries, s =>
    match skipGap s with
    | ⟨'\x7d', _⟩ :: rest => some (.table entries.reverse, rest)
    | s =>
      match flow? n s with
      | none => none
      | some (key, rest) =>
        match flowValue? n (skipGap rest) with
        | none => none
        | some (value, rest) =>
          let entries := (key, value) :: entries
          match skipGap rest with
          | ⟨',', _⟩ :: rest => flowEntries? n entries rest
          | ⟨'\x7d', _⟩ :: rest => some (.table entries.reverse, rest)
          | _ => none

/-- The value behind a key of a table between brackets: nothing, if no
colon or no value follows. -/
def flowValue? : Nat → Input → Option (Node × Input)
  | 0, _ => none
  | n + 1, ⟨':', _⟩ :: rest =>
    match skipGap rest with
    | ⟨',', c⟩ :: rest => some (.leaf .null, ⟨',', c⟩ :: rest)
    | ⟨'\x7d', c⟩ :: rest => some (.leaf .null, ⟨'\x7d', c⟩ :: rest)
    | s => flow? n s
  | _ + 1, s => some (.leaf .null, s)
end

-- ================================================================= blocks

/-- Whether an item of a block sequence begins here. -/
def beginsItem : Input → Bool
  | ⟨'-', _⟩ :: rest => atBreak rest
  | _ => false

/-- Whether the line ends here. -/
def atNewLine : Input → Bool
  | [] => true
  | m :: _ => m.char = '\n'

/-- What is left behind spaces, comments and new lines. A block begins
behind spaces alone: it is none if a tab stands before it. -/
def below? (s : Input) : Option Input :=
  let below := skipGap s
  let gap := s.take (s.length - below.length)
  let before := gap.reverse.takeWhile (·.char ≠ '\n')
  if before.any (·.char = '\t') ∧ (beginsItem below ∨ (key? below).isSome) then
    none
  else some below

/-- A value that begins on the line of its key or on one of its own: a
flow value, a scalar or an alias, which nothing follows on its last line.
A scalar goes on only from a column on. -/
def inline? (n column : Nat) (s : Input) : Option (Node × Input) :=
  match properties? s with
  | none => none
  | some (p, s) =>
    match block? column s with
    | some (cs, rest) =>
      some (p.apply (.leaf (.text (String.ofList cs))), rest)
    | none =>
      let found := match s with
        | ⟨'[', _⟩ :: _ => flow? n s
        | ⟨'\x7b', _⟩ :: _ => flow? n s
        | s =>
          (atom? false column p.tag s).map fun ((node, _), rest) => (node, rest)
      match found with
      | some (node, rest) =>
        if atLineEnd rest then some (p.apply node, rest) else none
      | none => none

mutual
/-- A value that may be a block. Its lines begin from a column on. -/
def node? : Nat → Nat → Input → Option (Node × Input)
  | 0, _, _ => none
  | n + 1, column, s =>
    if beginsItem s then items? n (columnOf s) [] s
    else if (key? s).isSome then entries? n (columnOf s) [] s
    else
      match properties? s with
      | none => none
      | some (p, rest) =>
        if p ≠ Properties.none ∧ atNewLine (skipRest rest) then
          match below? rest with
          | none => none
          | some below =>
            if below ≠ [] ∧ column ≤ columnOf below then
              (node? n column below).map fun (node, rest) =>
                (p.apply node, rest)
            else p.emptyNode?.map fun node => (node, skipRest rest)
        else inline? n column s

/-- The items of a block sequence in a column; those read come last
first. -/
def items? : Nat → Nat → List Node → Input → Option (Node × Input)
  | 0, _, _, _ => none
  | n + 1, column, items, s =>
    if beginsItem s ∧ columnOf s = column then
      let s := skipRest (s.drop 1)
      let item :=
        if atNewLine s then
          match below? s with
          | none => none
          | some below =>
            if below ≠ [] ∧ column < columnOf below then
              node? n (column + 1) below
            else some (.leaf .null, s)
        else node? n (column + 1) s
      match item with
      | none => none
      | some (node, rest) =>
        match below? rest with
        | some below => items? n column (node :: items) below
        | none => none
    else if s ≠ [] ∧ column < columnOf s then none
    else some (.list items.reverse, s)

/-- The entries of a block mapping in a column; those read come last
first. -/
def entries? :
    Nat → Nat → List (Node × Node) → Input → Option (Node × Input)
  | 0, _, _, _ => none
  | n + 1, column, entries, s =>
    if s = [] ∨ columnOf s < column then some (.table entries.reverse, s)
    else if columnOf s = column then
      match key? s with
      | none => none
      | some (key, rest) =>
        match value? n column (skipRest rest) with
        | none => none
        | some (value, rest) =>
          match below? rest with
          | some below => entries? n column ((key, value) :: entries) below
          | none => none
    else none

/-- The value of a key in a column: on the same line, or in the lines
below, or nothing. -/
def value? : Nat → Nat → Input → Option (Node × Input)
  | 0, _, _ => none
  | n + 1, column, s =>
    match properties? s with
    | none => none
    | some (p, rest) =>
      if atNewLine (skipRest rest) then
        match below? rest with
        | none => none
        | some below =>
          if below ≠ [] ∧ column < columnOf below then
            (node? n (column + 1) below).map fun (node, rest) =>
              (p.apply node, rest)
          else if beginsItem below ∧ columnOf below = column then
            (items? n column [] below).map fun (node, rest) =>
              (p.apply node, rest)
          else p.emptyNode?.map fun node => (node, skipRest rest)
      else inline? n (column + 1) s
end

end SecurityConsole.Settings.Yaml
