/-
Writing to a storage: what a write changes when it succeeds, and what it
leaves alone even when it fails.

A write touches the text under its own key and no other, whatever the
storage is and however the write ends (`get?_set_of_ne`,
`get?_remove_of_ne`). What becomes of its own key is sure only when the
write says that it went well.
-/
import SecurityConsole.Storage.Basic

namespace SecurityConsole.Storage

-- ================================================================ commands

/-- A write with all it needs. -/
inductive Command where
  | set (key value : String)
  | remove (key : String)
  deriving DecidableEq, Repr, Inhabited

/-- Carry out a write. -/
def execute (s : Storage) : Command → Except StorageError Unit × Storage
  | .set key value => s.set key value
  | .remove key => s.remove key

/-- The storage after some writes, of which some may have failed. -/
def after (s : Storage) (ws : List Command) : Storage :=
  ws.foldl (fun s w => (s.execute w).2) s

-- ============================================================ single writes

/-- A text that was written is found under its key. -/
theorem get?_set_self {s : Storage} {key value : String}
    (h : (s.set key value).1 = .ok ()) :
    (s.set key value).2.get? key = some value := by
  cases s with
  | memory items => exact Items.get?_put_self key value items
  | faulty items n fails =>
      cases hf : fails n .set with
      | true => simp [set, hf] at h
      | false =>
          simp only [set, hf, Bool.false_eq_true, if_false, get?]
          exact Items.get?_put_self key value items
  | file store tree => exact Items.get?_put_self key value store.items

/-- Writing under one key leaves the others alone. -/
theorem get?_set_of_ne {key other : String} (h : other ≠ key)
    (s : Storage) (value : String) :
    (s.set key value).2.get? other = s.get? other := by
  cases s with
  | memory items => exact Items.get?_put_of_ne h value items
  | faulty items n fails =>
      cases hf : fails n .set with
      | true => simp only [set, hf, if_true, get?]
      | false =>
          simp only [set, hf, Bool.false_eq_true, if_false, get?]
          exact Items.get?_put_of_ne h value items
  | file store tree => exact Items.get?_put_of_ne h value store.items

/-- Nothing is found under a key that was removed. -/
theorem get?_remove_self {s : Storage} {key : String}
    (h : (s.remove key).1 = .ok ()) :
    (s.remove key).2.get? key = none := by
  cases s with
  | memory items => exact Items.get?_erase_self key items
  | faulty items n fails =>
      cases hf : fails n .remove with
      | true => simp [remove, hf] at h
      | false =>
          simp only [remove, hf, Bool.false_eq_true, if_false, get?]
          exact Items.get?_erase_self key items
  | file store tree =>
      cases hg : store.items.get? key with
      | none =>
          simp only [remove, FileStore.remove, hg, get?, FileStore.get?]
      | some value =>
          simp only [remove, FileStore.remove, hg, get?, FileStore.get?]
          exact Items.get?_erase_self key store.items

/-- Removing one key leaves the others alone. -/
theorem get?_remove_of_ne {key other : String} (h : other ≠ key)
    (s : Storage) : (s.remove key).2.get? other = s.get? other := by
  cases s with
  | memory items => exact Items.get?_erase_of_ne h items
  | faulty items n fails =>
      cases hf : fails n .remove with
      | true => simp only [remove, hf, if_true, get?]
      | false =>
          simp only [remove, hf, Bool.false_eq_true, if_false, get?]
          exact Items.get?_erase_of_ne h items
  | file store tree =>
      cases hg : store.items.get? key with
      | none => simp only [remove, FileStore.remove, hg, get?]
      | some value =>
          simp only [remove, FileStore.remove, hg, get?, FileStore.get?]
          exact Items.get?_erase_of_ne h store.items

end SecurityConsole.Storage
