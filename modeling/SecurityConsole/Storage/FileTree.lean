/-
A tree of files and directories, and the effects that change it. Each
effect happens as a whole or fails and changes nothing; bytes are
written one effect each, so that an interruption may fall between any
two of them.
-/
import SecurityConsole.Text.Utf8

namespace SecurityConsole.Storage

open Text (Bytes)

/-- The names on the way from the root to a file or directory. -/
abbrev Path := List String

namespace Path

/-- The path that a text with slashes spells. -/
def ofString (s : String) : Path :=
  (s.splitOn "/").filter fun name => name ≠ "" ∧ name ≠ "."

/-- The directory that holds the path. -/
def parent (p : Path) : Path := p.dropLast

/-- A name without its ending: what stands before the last point, unless
the name begins with that point. -/
def stem (name : List Char) : List Char :=
  let before := ((name.reverse.dropWhile (· ≠ '.')).drop 1).reverse
  if before.isEmpty then name else before

/-- The sibling whose name ends in `.tmp` instead. -/
def temporary (p : Path) : Path :=
  match p.getLast? with
  | none => p
  | some name =>
    p.dropLast ++ [String.ofList (stem name.toList ++ ['.', 't', 'm', 'p'])]

end Path

/-- What is found at a path. -/
inductive Entry where
  | dir
  | file (bytes : Bytes)
  deriving DecidableEq, Repr, Inhabited

/-- Why an effect failed. -/
inductive Fault where
  | missing
  | notDirectory
  | isDirectory
  | alreadyThere
  deriving DecidableEq, Repr, Inhabited

/-- A tree: what is found at each path. The root is a directory and not
listed. -/
structure FileTree where
  entries : List (Path × Entry)
  deriving DecidableEq, Repr, Inhabited

namespace FileTree

/-- A tree without files. -/
def empty : FileTree := ⟨[]⟩

/-- What stands at a path, whatever stands on the way. -/
def at? (t : FileTree) (p : Path) : Option Entry :=
  if p = [] then some .dir else t.entries.lookup p

/-- Put an entry at a path, replacing the one that is there. -/
def put (t : FileTree) (p : Path) (e : Entry) : FileTree :=
  ⟨(p, e) :: t.entries.filter fun x => x.1 ≠ p⟩

/-- Take the entry at a path away. -/
def erase (t : FileTree) (p : Path) : FileTree :=
  ⟨t.entries.filter fun x => x.1 ≠ p⟩

/-- Go from a path that was reached along the names that follow. -/
def reachFrom (t : FileTree) (reached : Path) : Path → Except Fault Entry
  | [] =>
    match t.at? reached with
    | some e => .ok e
    | none => .error .missing
  | name :: rest =>
    match t.at? reached with
    | some .dir => t.reachFrom (reached ++ [name]) rest
    | some (.file _) => .error .notDirectory
    | none => .error .missing

/-- What is found at a path, going there from the root. -/
def reach (t : FileTree) (p : Path) : Except Fault Entry :=
  t.reachFrom [] p

/-- The bytes of the file at a path. -/
def read (t : FileTree) (p : Path) : Except Fault Bytes :=
  match t.reach p with
  | .ok (.file bytes) => .ok bytes
  | .ok .dir => .error .isDirectory
  | .error f => .error f

-- =============================================================== listing

/-- Whether a path comes before another: name by name, a directory before
what it holds. -/
def comesBefore : Path → Path → Bool
  | [], _ => true
  | _ :: _, [] => false
  | a :: as, b :: bs => if a = b then comesBefore as bs else a < b

/-- Everything in the tree, in the order of the paths. -/
def listing (t : FileTree) : List (Path × Entry) :=
  t.entries.mergeSort fun a b => comesBefore a.1 b.1

end FileTree

-- =============================================================== effects

/-- A change of the tree. -/
inductive Effect where
  /-- Make a directory. -/
  | makeDir (p : Path)
  /-- Make an empty file, or empty the one that is there. -/
  | create (p : Path)
  /-- Write one byte at the end of a file. -/
  | append (p : Path) (b : UInt8)
  /-- Give a file another path, replacing the file that is there. -/
  | rename (source target : Path)
  deriving DecidableEq, Repr, Inhabited

namespace Effect

/-- Whether the directory that is to hold a path is there. -/
def parentOk (t : FileTree) (p : Path) : Except Fault Unit :=
  match t.reach p.parent with
  | .ok .dir => .ok ()
  | .ok (.file _) => .error .notDirectory
  | .error f => .error f

/-- The tree after an effect. -/
def apply (t : FileTree) : Effect → Except Fault FileTree
  | .makeDir p =>
    match parentOk t p, t.at? p with
    | .error f, _ => .error f
    | .ok _, some _ => .error .alreadyThere
    | .ok _, none => .ok (t.put p .dir)
  | .create p =>
    match parentOk t p, t.at? p with
    | .error f, _ => .error f
    | .ok _, some .dir => .error .isDirectory
    | .ok _, _ => .ok (t.put p (.file []))
  | .append p b =>
    match t.reach p with
    | .ok (.file bytes) => .ok (t.put p (.file (bytes ++ [b])))
    | .ok .dir => .error .isDirectory
    | .error f => .error f
  | .rename source target =>
    match t.reach source, parentOk t target, t.at? target with
    | .error f, _, _ => .error f
    | _, .error f, _ => .error f
    | .ok (.file _), .ok _, some .dir => .error .isDirectory
    | .ok .dir, .ok _, some (.file _) => .error .notDirectory
    | .ok e, .ok _, _ =>
      if source = target then .ok t
      else .ok ((t.erase source).put target e)

/-- Effects one after the other, up to the first that fails. -/
def perform (t : FileTree) : List Effect → FileTree × Option Fault
  | [] => (t, none)
  | e :: rest =>
    match e.apply t with
    | .ok t' => perform t' rest
    | .error f => (t, some f)

end Effect
end SecurityConsole.Storage
