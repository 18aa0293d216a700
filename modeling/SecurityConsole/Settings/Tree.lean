/-
Trees of settings: tables of named values, as a file or the environment
gives them. Trees are merged leaf by leaf; names are the same in small
and capital letters.
-/
import SecurityConsole.Number.Rounding
import SecurityConsole.Number.Word
import SecurityConsole.Text.Cut

namespace SecurityConsole.Settings

open Number (Double)

/-- A value of a setting, or a table of settings. -/
inductive Tree where
  | null
  | bool (b : Bool)
  | int (n : Int)
  | real (x : Double)
  | text (s : String)
  | list (items : List Tree)
  | table (entries : List (String × Tree))
  deriving Repr, Inhabited

namespace Tree

/-- The entries of a table; other values have none. -/
def entries : Tree → List (String × Tree)
  | .table es => es
  | _ => []

/-- The value under a name. -/
def get? (t : Tree) (name : String) : Option Tree := t.entries.lookup name

/-- Put a value under a name. -/
def putEntry (name : String) (value : Tree) :
    List (String × Tree) → List (String × Tree)
  | [] => [(name, value)]
  | (n, v) :: rest =>
    if n = name then (name, value) :: rest
    else (n, v) :: putEntry name value rest

/-- Put a value under a name of a table; anything else becomes a table
by that. -/
def put (t : Tree) (name : String) (value : Tree) : Tree :=
  .table (putEntry name value t.entries)

-- ============================================================== equality

mutual
/-- Whether two values are the same, entries in the same order. -/
def same : Tree → Tree → Bool
  | .null, .null => true
  | .bool a, .bool b => a = b
  | .int a, .int b => a = b
  | .real a, .real b => a = b
  | .text a, .text b => a = b
  | .list as, .list bs => sameItems as bs
  | .table es, .table fs => sameEntries es fs
  | _, _ => false

/-- Whether two lists have the same items. -/
def sameItems : List Tree → List Tree → Bool
  | [], [] => true
  | a :: as, b :: bs => same a b && sameItems as bs
  | _, _ => false

/-- Whether two tables have the same entries. -/
def sameEntries :
    List (String × Tree) → List (String × Tree) → Bool
  | [], [] => true
  | (n, t) :: es, (m, u) :: fs => n = m && same t u && sameEntries es fs
  | _, _ => false
end

mutual
/-- What `same` compares is the whole value, so that equality can be
computed. -/
theorem same_iff : ∀ {t u : Tree}, same t u = true ↔ t = u
  | .null, u | .bool _, u | .int _, u | .real _, u | .text _, u => by
    cases u <;> simp [same]
  | .list as, u => by
    cases u with
    | list bs => rw [same, sameItems_iff, list.injEq]
    | _ => simp [same]
  | .table es, u => by
    cases u with
    | table fs => rw [same, sameEntries_iff, table.injEq]
    | _ => simp [same]

theorem sameItems_iff : ∀ {as bs : List Tree},
    sameItems as bs = true ↔ as = bs
  | [], bs => by cases bs <;> simp [sameItems]
  | a :: as, bs => by
    cases bs with
    | nil => simp [sameItems]
    | cons b bs =>
        rw [sameItems, Bool.and_eq_true, same_iff, sameItems_iff,
          List.cons.injEq]

theorem sameEntries_iff : ∀ {es fs : List (String × Tree)},
    sameEntries es fs = true ↔ es = fs
  | [], fs => by cases fs <;> simp [sameEntries]
  | (n, t) :: es, fs => by
    cases fs with
    | nil => simp [sameEntries]
    | cons f fs =>
        obtain ⟨m, u⟩ := f
        rw [sameEntries, Bool.and_eq_true, Bool.and_eq_true,
          decide_eq_true_eq, same_iff, sameEntries_iff, List.cons.injEq,
          Prod.mk.injEq]
end

instance : DecidableEq Tree := fun _ _ => decidable_of_iff _ same_iff

-- =============================================================== merging

mutual
/-- Merge a value into the one under a name. A table is merged entry by
entry, anything else takes the place of what was there. -/
def assign (name : String) (t : Tree) : Tree → Tree
  | .table es =>
    let here := (t.get? name.toLower).getD (.table [])
    t.put name.toLower (assignAll here es)
  | v => t.put name.toLower v

/-- Merge entries into a tree. -/
def assignAll (t : Tree) : List (String × Tree) → Tree
  | [] => t
  | (name, v) :: rest => assignAll (assign name t v) rest
end

/-- Merge a value into the one at a path of names. -/
def assignAt (t : Tree) (v : Tree) : List String → Tree
  | [] => t
  | [name] => assign name t v
  | name :: rest =>
    let here := (t.get? name.toLower).getD .null
    t.put name.toLower (assignAt here v rest)

/-- The names that a text with points spells. -/
def pathOf (s : String) : List String :=
  (Text.cutAt (· = '.') s.toList).map String.ofList

/-- Merge the entries of a source into a tree. Their names may be paths. -/
def overlay (t : Tree) (source : List (String × Tree)) : Tree :=
  source.foldl (fun t e => assignAt t e.2 (pathOf e.1)) t

-- ================================================================= values

/-- The text of a value; tables, lists and nothing have none. -/
def text? : Tree → Option String
  | .text s => some s
  | .int n => some (toString n)
  | .real x => some x.plainText
  | .bool true => some "true"
  | .bool false => some "false"
  | _ => none

/-- The largest whole number that a setting can have. -/
def natLimit : Nat := Number.wordBound - 1

/-- The whole number that digits spell, behind an optional plus sign. -/
def digitsNat? (s : String) : Option Nat :=
  let ds := match s.toList with
    | '+' :: ds => ds
    | ds => ds
  if ds ≠ [] ∧ ds.all Char.isDigit then
    let n := ds.foldl (fun n c => 10 * n + (c.toNat - '0'.toNat)) 0
    if n ≤ natLimit then some n else none
  else none

/-- The whole number of a value. Truth values are one and zero, also when
they are spelled; fractions are rounded, and numbers out of range take
the nearest in range. -/
def nat? : Tree → Option Nat
  | .int n => if 0 ≤ n then some n.toNat else none
  | .real x => some (x.clamped natLimit)
  | .bool b => some b.toNat
  | .text s =>
    if s.toLower ∈ ["true", "on", "yes"] then some 1
    else if s.toLower ∈ ["false", "off", "no"] then some 0
    else digitsNat? s
  | _ => none

end Tree
end SecurityConsole.Settings
