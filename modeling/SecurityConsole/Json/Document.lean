/-
JSON text as a tree, before anything is asked of its values. A document
accepts every text that follows the grammar, whatever its strings spell
and however large its numbers are, because a member that nobody reads
may hold anything. Values are read from it with `toJson?`, which demands
that strings are text, numbers fit a double and nesting stays within a
limit.

The parser keeps its own stack, so a text may be nested as deeply as it
is long, and it is defined by recursion on the tokens.
-/
import SecurityConsole.Json.Token

namespace SecurityConsole.Json

open Text (Bytes)

/-- A JSON text as written: members may repeat, strings are pieces. -/
inductive Document where
  | null
  | bool (b : Bool)
  | number (n : Numeral)
  | string (ps : Pieces)
  | array (items : List Document)
  | object (members : List (Pieces × Document))
  deriving Repr, Inhabited

-- =============================================================== parsing

/-- A value that is still open: an array with its items, or an object
with its members and the name of the next one, last first. -/
inductive Frame where
  | array (items : List Document)
  | object (members : List (Pieces × Document)) (name : Pieces)
  deriving Repr, Inhabited

/-- What the parser waits for. -/
inductive Expectation where
  /-- A value. -/
  | value
  /-- The first item of an array, or its end. -/
  | firstItem
  /-- The first name of an object, or its end. -/
  | firstName
  /-- The next name of the object with these members. -/
  | name (members : List (Pieces × Document))
  /-- The colon behind a name. -/
  | colon (members : List (Pieces × Document)) (name : Pieces)
  /-- A comma, or the end of the innermost open value. -/
  | comma
  /-- Nothing: the document is complete. -/
  | nothing (d : Document)
  deriving Repr, Inhabited

/-- The parser's state: what it waits for, and the open values,
innermost first. An array or object waiting for its first entry is not
yet on the stack. -/
structure Parser where
  expects : Expectation
  stack : List Frame
  deriving Repr, Inhabited

namespace Parser

/-- Hand a complete value to the innermost open one. -/
def deliver (d : Document) : List Frame → Parser
  | [] => ⟨.nothing d, []⟩
  | .array items :: stack => ⟨.comma, .array (d :: items) :: stack⟩
  | .object members name :: stack =>
    ⟨.comma, .object ((name, d) :: members) [] :: stack⟩

/-- A token where a value may begin. -/
def beginValue (stack : List Frame) : Token → Option Parser
  | .null => some (deliver .null stack)
  | .bool b => some (deliver (.bool b) stack)
  | .number n => some (deliver (.number n) stack)
  | .string ps => some (deliver (.string ps) stack)
  | .openBracket => some ⟨.firstItem, stack⟩
  | .openBrace => some ⟨.firstName, stack⟩
  | _ => none

/-- One token. -/
def step (p : Parser) (t : Token) : Option Parser :=
  match p.expects, t with
  | .value, t => beginValue p.stack t
  | .firstItem, .closeBracket => some (deliver (.array []) p.stack)
  | .firstItem, t => beginValue (.array [] :: p.stack) t
  | .firstName, .closeBrace => some (deliver (.object []) p.stack)
  | .firstName, .string name => some ⟨.colon [] name, p.stack⟩
  | .name members, .string name => some ⟨.colon members name, p.stack⟩
  | .colon members name, .colon =>
    some ⟨.value, .object members name :: p.stack⟩
  | .comma, t =>
    match p.stack, t with
    | .array _ :: _, .comma => some ⟨.value, p.stack⟩
    | .array items :: stack, .closeBracket =>
      some (deliver (.array items.reverse) stack)
    | .object members _ :: stack, .comma => some ⟨.name members, stack⟩
    | .object members _ :: stack, .closeBrace =>
      some (deliver (.object members.reverse) stack)
    | _, _ => none
  | _, _ => none

/-- All tokens of a text. -/
def run (p : Parser) : List Token → Option Parser
  | [] => some p
  | t :: rest => (p.step t).bind (·.run rest)

end Parser

namespace Document

/-- The document that a sequence of tokens is. -/
def ofTokens? (ts : List Token) : Option Document :=
  match Parser.run ⟨.value, []⟩ ts with
  | some ⟨.nothing d, _⟩ => some d
  | _ => none

/-- The document that a sequence of bytes is. -/
def ofBytes? (bs : Bytes) : Option Document :=
  (tokens? (Text.decode bs)).bind ofTokens?

/-- The document that a string is. -/
def ofString? (s : String) : Option Document :=
  (tokens? (s.toList.map .char)).bind ofTokens?

-- ================================================================ values

mutual
/-- The value of a document whose arrays and objects are nested at most
`depth` deep. -/
def toJson? (depth : Nat) : Document → Option Json
  | .null => some .null
  | .bool b => some (.bool b)
  | .number n => n.value?
  | .string ps => (string? ps).map .str
  | .array items =>
    match depth with
    | 0 => none
    | depth + 1 => (items? depth items).map .arr
  | .object members =>
    match depth with
    | 0 => none
    | depth + 1 => (members? depth members []).map .obj

/-- The values of an array's items. -/
def items? (depth : Nat) : List Document → Option (List Json)
  | [] => some []
  | d :: rest =>
    match toJson? depth d with
    | some j => (items? depth rest).map (j :: ·)
    | none => none

/-- The members of an object, added to those already read: a repeated
name gets its last value. -/
def members? (depth : Nat) :
    List (Pieces × Document) → List (String × Json) →
      Option (List (String × Json))
  | [], acc => some acc
  | (ps, d) :: rest, acc =>
    match string? ps, toJson? depth d with
    | some name, some j => members? depth rest (put name j acc)
    | _, _ => none
end

/-- How deeply the values of a message may be nested. -/
def nestingLimit : Nat := 127

/-- The names of an object that are among the given ones, with their
values; `none` if one of them occurs twice, or any name at all is not a
string. Values of other names are not looked at. -/
def known? (names : List String) (depth : Nat) :
    List (Pieces × Document) → List (String × Json) →
      Option (List (String × Json))
  | [], acc => some acc
  | (ps, d) :: rest, acc =>
    match string? ps with
    | none => none
    | some name =>
      if name ∈ names then
        if (acc.lookup name).isSome then none
        else
          match toJson? depth d with
          | some j => known? names depth rest (acc ++ [(name, j)])
          | none => none
      else known? names depth rest acc

/-- The value of a document that is read for a record of the given field
names: of an object only those members count, and each at most once. -/
def recordJson? (names : List String) : Document → Option Json
  | .object members => (known? names (nestingLimit - 1) members []).map .obj
  | d => d.toJson? nestingLimit

end Document

/-- The value that a string of JSON text denotes. -/
def ofString? (s : String) : Option Json :=
  (Document.ofString? s).bind (·.toJson? Document.nestingLimit)

end SecurityConsole.Json
