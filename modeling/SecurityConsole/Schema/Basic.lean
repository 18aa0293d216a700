/-
Shapes of the values that messages carry. A schema says what a record of
the server looks like: which fields it has, in which order, which may be
missing, and which are left out when written. It gives a type of values
(`Schema.Value`), a reader from JSON (`Schema.decode`) and a writer
(`Schema.encode`), so the resources of the server are tables of fields
and every law of the codec is proved once.
-/
import SecurityConsole.Json.Value

namespace SecurityConsole

open Number (Double)

-- ================================================================ fields

/-- What a reader does when a field is missing. -/
inductive Missing where
  /-- The record is refused. -/
  | refused
  /-- The field is blank. -/
  | blank
  /-- The field is blank in a record written by names; a record written
  as an array must still have it. -/
  | blankByName
  deriving DecidableEq, Repr, Inhabited

/-- When a writer writes a field. -/
inductive Written where
  /-- Always, a blank option as `null`. -/
  | always
  /-- Only when it is set: an option that has a value, a list that has
  items. -/
  | whenSet
  deriving DecidableEq, Repr, Inhabited

/-- How one field is read and written. -/
structure Rule where
  missing : Missing
  written : Written
  deriving DecidableEq, Repr, Inhabited

-- =============================================================== schemas

mutual
/-- The shape of a value. -/
inductive Schema where
  /-- A string. -/
  | text
  /-- A truth value. -/
  | bool
  /-- An integer between two bounds. -/
  | int (lo hi : Int)
  /-- A number of double precision; integers are widened. -/
  | real
  /-- Any value at all. -/
  | json
  /-- One of some names. -/
  | oneOf (names : List String)
  /-- A value or `null`. -/
  | optional (s : Schema)
  /-- An array. -/
  | list (s : Schema)
  /-- A record of fields. One that is `joined` has the fields of several
  parts and cannot be written as an array. -/
  | record (joined : Bool) (fields : Fields)

/-- The fields of a record, in order. -/
inductive Fields where
  | nil
  | cons (name : String) (rule : Rule) (value : Schema) (rest : Fields)
end

deriving instance Repr for Schema, Fields

instance : Inhabited Schema := ⟨.json⟩
instance : Inhabited Fields := ⟨.nil⟩

namespace Fields

/-- A field table as a list. -/
def ofList : List (String × Rule × Schema) → Fields
  | [] => .nil
  | (name, rule, value) :: rest => .cons name rule value (ofList rest)

/-- The names of the fields. -/
def names : Fields → List String
  | .nil => []
  | .cons name _ _ rest => name :: names rest

/-- One table of fields behind another. -/
def append : Fields → Fields → Fields
  | .nil, more => more
  | .cons name rule value rest, more =>
    .cons name rule value (append rest more)

instance : Append Fields := ⟨append⟩

end Fields

-- ================================================================ values

mutual
/-- The values of a shape. -/
def Schema.Value : Schema → Type
  | .text => String
  | .bool => Bool
  | .int lo hi => { n : Int // lo ≤ n ∧ n ≤ hi }
  | .real => Double
  | .json => Json
  | .oneOf names => Fin names.length
  | .optional s => Option s.Value
  | .list s => List s.Value
  | .record _ fields => fields.Value

/-- The values of the fields of a record. -/
def Fields.Value : Fields → Type
  | .nil => Unit
  | .cons _ _ value rest => value.Value × rest.Value
end

-- ================================================================ blanks

mutual
/-- The value of a field that is missing: the empty text, zero, no value
at all. A choice of names has none. -/
def Schema.blank? : (s : Schema) → Option s.Value
  | .text => some ""
  | .bool => some false
  | .int lo hi => if h : lo ≤ 0 ∧ 0 ≤ hi then some ⟨0, h⟩ else none
  | .real => some Double.zero
  | .json => some Json.null
  | .oneOf _ => none
  | .optional _ => some none
  | .list _ => some []
  | .record _ fields => fields.blank?

/-- A record whose fields are all blank. -/
def Fields.blank? : (fs : Fields) → Option fs.Value
  | .nil => some ()
  | .cons _ _ value rest =>
    match value.blank?, rest.blank? with
    | some v, some r => some (v, r)
    | _, _ => none
end

/-- Whether a field is set: an option that has a value, a list that has
items, anything else. -/
def Schema.isSet : (s : Schema) → s.Value → Bool
  | .optional _, v => Option.isSome v
  | .list _, v => !List.isEmpty v
  | _, _ => true

-- =============================================================== reading

mutual
/-- Read a value of the shape. -/
def Schema.decode : (s : Schema) → Json → Option s.Value
  | .text, .str s => some s
  | .bool, .bool b => some b
  | .int lo hi, .int n => if h : lo ≤ n ∧ n ≤ hi then some ⟨n, h⟩ else none
  | .real, .int n => some (Double.ofInt n)
  | .real, .real x => some x
  | .json, j => some j
  | .oneOf names, j => decodeName names j
  | .optional _, .null => some none
  | .optional s, j => (s.decode j).map some
  | .list s, .arr items => items.mapM s.decode
  | .record _ fields, .obj members => fields.decodeNamed members
  | .record false fields, .arr items => fields.decodeItems items
  | _, _ => none
where
  /-- A name is a string, or an object whose only member has that name
  and no value. -/
  decodeName (names : List String) : Json → Option (Fin names.length)
    | .str s => names.finIdxOf? s
    | .obj [(s, .null)] => names.finIdxOf? s
    | _ => none

/-- Read the fields of a record from the members of an object. -/
def Fields.decodeNamed :
    (fs : Fields) → List (String × Json) → Option fs.Value
  | .nil, _ => some ()
  | .cons name rule value rest, members =>
    let here := match members.lookup name with
      | some j => value.decode j
      | none => if rule.missing = .refused then none else value.blank?
    match here, rest.decodeNamed members with
    | some v, some r => some (v, r)
    | _, _ => none

/-- Read the fields of a record from the items of an array, in order.
Items may be missing at the end, but none may be left over. -/
def Fields.decodeItems : (fs : Fields) → List Json → Option fs.Value
  | .nil, [] => some ()
  | .nil, _ :: _ => none
  | .cons _ rule value rest, items =>
    let here := match items with
      | j :: _ => value.decode j
      | [] => if rule.missing = .blank then value.blank? else none
    match here, rest.decodeItems items.tail with
    | some v, some r => some (v, r)
    | _, _ => none
end

-- =============================================================== writing

mutual
/-- Write a value of the shape. -/
def Schema.encode : (s : Schema) → s.Value → Json
  | .text, v => .str v
  | .bool, v => .bool v
  | .int _ _, v => .int v.1
  | .real, v => .real v
  | .json, v => v
  | .oneOf names, v => .str (names.get v)
  | .optional _, none => .null
  | .optional s, some v => s.encode v
  | .list s, v => .arr (List.map s.encode v)
  | .record _ fields, v => .obj (fields.encode v)

/-- Write the fields of a record, leaving out those that are not set and
are written only when set. -/
def Fields.encode : (fs : Fields) → fs.Value → List (String × Json)
  | .nil, _ => []
  | .cons name rule value rest, (v, r) =>
    if rule.written = .whenSet ∧ !value.isSet v then rest.encode r
    else (name, value.encode v) :: rest.encode r
end

-- ======================================================== field tables

namespace Schema

/-- A field that must be present. -/
def need (name : String) (s : Schema) : String × Rule × Schema :=
  (name, ⟨.refused, .always⟩, s)

/-- A field that is blank when missing. -/
def fill (name : String) (s : Schema) : String × Rule × Schema :=
  (name, ⟨.blank, .always⟩, s)

/-- An optional field, `null` when it has no value. -/
def maybe (name : String) (s : Schema) : String × Rule × Schema :=
  (name, ⟨.blank, .always⟩, .optional s)

/-- An optional field that is left out when it has no value. -/
def given (name : String) (s : Schema) : String × Rule × Schema :=
  (name, ⟨.blank, .whenSet⟩, .optional s)

/-- An optional field of a request, left out when it has no value. -/
def ask (name : String) (s : Schema) : String × Rule × Schema :=
  (name, ⟨.blankByName, .whenSet⟩, .optional s)

/-- A list of a request, left out when it has no items. -/
def askList (name : String) (s : Schema) : String × Rule × Schema :=
  (name, ⟨.blankByName, .whenSet⟩, .list s)

/-- A record with the given fields. -/
def fields (table : List (String × Rule × Schema)) : Schema :=
  .record false (Fields.ofList table)

/-- The fields of a record; other shapes have none. -/
def fieldTable : Schema → Fields
  | .record _ fields => fields
  | _ => .nil

/-- A record that joins two tables of fields. -/
def join (first second : Fields) : Schema := .record true (first ++ second)

/-- Signed integers of sixty-four bits. -/
def i64 : Schema :=
  .int (-9223372036854775808) 9223372036854775807

/-- Unsigned integers of sixty-four bits. -/
def u64 : Schema := .int 0 18446744073709551615

/-- Unsigned integers of thirty-two bits. -/
def u32 : Schema := .int 0 4294967295

/-- Unsigned integers of sixteen bits. -/
def u16 : Schema := .int 0 65535

/-- Unsigned integers of eight bits. -/
def u8 : Schema := .int 0 255

end Schema
end SecurityConsole
