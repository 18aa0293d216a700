/-
Where a session is kept between two runs of the console: in memory, in
memory that refuses some writes, or in a file.
-/
import SecurityConsole.Storage.FileStore

namespace SecurityConsole

namespace Storage

/-- The two ways of writing to a storage. -/
inductive Write where
  | set
  | remove
  deriving DecidableEq, Repr, Inhabited

end Storage

open Storage in
/-- A storage and what it holds. -/
inductive Storage where
  /-- Items that are gone with the process. -/
  | memory (items : Items)
  /-- Items of which some writes fail and change nothing: the test gets
  the number of writes before and what is tried. -/
  | faulty (items : Items) (writes : Nat) (fails : Nat → Write → Bool)
  /-- Items in a file. -/
  | file (store : FileStore) (tree : FileTree)

namespace Storage

instance : Inhabited Storage := ⟨.memory []⟩

/-- The text under a key. -/
def get? : Storage → String → Option String
  | .memory items, key => items.get? key
  | .faulty items _ _, key => items.get? key
  | .file store _, key => store.get? key

/-- Put a text under a key. -/
def set (s : Storage) (key value : String) :
    Except StorageError Unit × Storage :=
  match s with
  | .memory items => (.ok (), .memory (items.put key value))
  | .faulty items n fails =>
    if fails n .set then (.error .io, .faulty items (n + 1) fails)
    else (.ok (), .faulty (items.put key value) (n + 1) fails)
  | .file store tree =>
    let (r, store', tree') := store.set tree key value
    (r, .file store' tree')

/-- Remove the text under a key. -/
def remove (s : Storage) (key : String) :
    Except StorageError Unit × Storage :=
  match s with
  | .memory items => (.ok (), .memory (items.erase key))
  | .faulty items n fails =>
    if fails n .remove then (.error .io, .faulty items (n + 1) fails)
    else (.ok (), .faulty (items.erase key) (n + 1) fails)
  | .file store tree =>
    let (r, store', tree') := store.remove tree key
    (r, .file store' tree')

end Storage
end SecurityConsole
