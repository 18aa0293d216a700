/-
Items kept in a file of JSON text. Every write makes the directories
that are missing, writes all items to a temporary file beside the file,
and gives the temporary file the file's name. The items in memory change
before anything is written, and stay changed when writing fails.
-/
import SecurityConsole.Storage.Items
import SecurityConsole.Storage.FileTree
import SecurityConsole.Json.Document
import SecurityConsole.Json.Printer

namespace SecurityConsole.Storage

open Json (Document)
open Text (Bytes)

/-- Why a storage could not do what it was asked for. -/
inductive StorageError where
  /-- The file system refused. -/
  | io
  /-- The file does not hold items. -/
  | serialization
  deriving DecidableEq, Repr, Inhabited

/-- The name of a failure. -/
def StorageError.name : StorageError → String
  | .io => "Io"
  | .serialization => "Serialization"

/-- The members of an object whose values are all strings. -/
def textMembers? :
    List (Json.Pieces × Document) → Option (List (String × String))
  | [] => some []
  | (name, .string value) :: rest =>
    match Json.string? name, Json.string? value, textMembers? rest with
    | some n, some v, some more => some ((n, v) :: more)
    | _, _, _ => none
  | _ => none

/-- The items that bytes hold; `none` if they are not the JSON text of an
object of strings. -/
def Items.ofBytes? (bs : Bytes) : Option Items :=
  match Document.ofBytes? bs with
  | some (.object members) => (textMembers? members).map Items.ofList
  | _ => none

/-- The bytes that items are written as. -/
def Items.toBytes (items : Items) : Bytes :=
  Text.encode (Json.printTable items)

/-- A store: the path of its file, and the items as it knows them. -/
structure FileStore where
  path : Path
  items : Items
  deriving DecidableEq, Repr, Inhabited

namespace FileStore

/-- Open the store at a path. A file that is missing or empty holds no
items. -/
def openAt (t : FileTree) (p : Path) : Except StorageError FileStore :=
  match t.read p with
  | .ok [] => .ok ⟨p, []⟩
  | .ok bytes =>
    match Items.ofBytes? bytes with
    | some items => .ok ⟨p, items⟩
    | none => .error .serialization
  | .error .missing => .ok ⟨p, []⟩
  | .error _ => .error .io

/-- The ancestors of a path, from the root down. -/
def ancestors (p : Path) : List Path :=
  ((List.range p.length).drop 1).map p.take

/-- The effects of writing items to the file of a path. -/
def plan (t : FileTree) (p : Path) (items : Items) : List Effect :=
  let dirs := (ancestors p).filter fun d => t.at? d ≠ some .dir
  dirs.map .makeDir ++ .create p.temporary ::
    items.toBytes.map (.append p.temporary) ++
    [.rename p.temporary p]

/-- Write the items to the file. -/
def persist (s : FileStore) (t : FileTree) :
    Except StorageError Unit × FileTree :=
  match Effect.perform t (plan t s.path s.items) with
  | (t', none) => (.ok (), t')
  | (t', some _) => (.error .io, t')

/-- The text under a key. -/
def get? (s : FileStore) (key : String) : Option String := s.items.get? key

/-- Put a text under a key and write the file. -/
def set (s : FileStore) (t : FileTree) (key value : String) :
    Except StorageError Unit × FileStore × FileTree :=
  let s' : FileStore := { s with items := s.items.put key value }
  let (r, t') := s'.persist t
  (r, s', t')

/-- Remove the text under a key and write the file; when there is none,
nothing is written. -/
def remove (s : FileStore) (t : FileTree) (key : String) :
    Except StorageError Unit × FileStore × FileTree :=
  match s.items.get? key with
  | none => (.ok (), s, t)
  | some _ =>
    let s' : FileStore := { s with items := s.items.erase key }
    let (r, t') := s'.persist t
    (r, s', t')

end FileStore
end SecurityConsole.Storage
