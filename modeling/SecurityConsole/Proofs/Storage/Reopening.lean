/-
A store that is opened again holds what it held.

Items stay in the order of their keys (`Items.Ordered`), so the items of
a file come back just as they were written (`Items.ofList_of_ordered`).
A write that goes well leaves its items in the file (`read_persist`), and
hence a file that opens as the store (`openAt_set`, `openAt_remove`). A
write that fails may leave neither: the items in memory have changed by
then.
-/
import SecurityConsole.Proofs.Json.TextTable
import SecurityConsole.Proofs.Storage.Tree
import SecurityConsole.Proofs.Storage.Writing

namespace SecurityConsole.Storage

open Text (Bytes)

-- ================================================================ order

namespace Items

/-- Every key comes before those behind it. -/
def Ordered (items : Items) : Prop := items.Pairwise fun a b => a.1 < b.1

/-- What is there behind a put was put, or was there before. -/
theorem mem_put {key value : String} {items : Items} {e : String × String}
    (h : e ∈ items.put key value) : e = (key, value) ∨ e ∈ items := by
  induction items with
  | nil => exact .inl (List.mem_singleton.1 h)
  | cons x rest ih =>
      obtain ⟨k, v⟩ := x
      unfold put at h
      split at h
      · rcases List.mem_cons.1 h with he | he
        · exact .inl he
        · exact .inr (List.mem_cons_of_mem _ he)
      · split at h
        · rcases List.mem_cons.1 h with he | he
          · exact .inl he
          · exact .inr he
        · rcases List.mem_cons.1 h with he | he
          · exact .inr (he ▸ List.mem_cons_self)
          · rcases ih he with he | he
            · exact .inl he
            · exact .inr (List.mem_cons_of_mem _ he)

/-- A put keeps the order: it goes on to the place of the key, and takes
the place of an item or steps in before a larger key. -/
theorem Ordered.put {items : Items} (h : items.Ordered)
    (key value : String) : (items.put key value).Ordered := by
  induction items with
  | nil => exact List.pairwise_singleton _ _
  | cons x rest ih =>
      obtain ⟨k, v⟩ := x
      obtain ⟨hfirst, hrest⟩ := List.pairwise_cons.1 h
      unfold Items.put
      split
      · next heq => exact List.pairwise_cons.2 ⟨heq ▸ hfirst, hrest⟩
      split
      · next hlt =>
          refine List.pairwise_cons.2 ⟨fun e he => ?_, h⟩
          rcases List.mem_cons.1 he with rfl | he
          · exact hlt
          · exact String.lt_trans hlt (hfirst e he)
      · next hne hge =>
          have hlt : k < key :=
            Std.lt_of_le_of_ne (String.not_lt.1 hge) (Ne.symm hne)
          refine List.pairwise_cons.2 ⟨fun e he => ?_, ih hrest⟩
          rcases mem_put he with rfl | he
          · exact hlt
          · exact hfirst e he

theorem Ordered.erase {items : Items} (h : items.Ordered) (key : String) :
    (items.erase key).Ordered :=
  h.sublist List.filter_sublist

/-- A key behind all others is put at the end. -/
theorem put_of_last {key : String} (value : String) {items : Items}
    (h : ∀ e ∈ items, e.1 < key) :
    items.put key value = items ++ [(key, value)] := by
  induction items with
  | nil => rfl
  | cons x rest ih =>
      obtain ⟨k, v⟩ := x
      have hlt : k < key := h (k, v) List.mem_cons_self
      have hne : key ≠ k := by
        rintro rfl
        exact String.lt_irrefl key hlt
      have hge : ¬ key < k :=
        fun hgt => String.lt_irrefl k (String.lt_trans hlt hgt)
      unfold put
      rw [if_neg hne, if_neg hge,
        ih fun e he => h e (List.mem_cons_of_mem _ he)]
      rfl

/-- Items in order are put one behind the other, each at the end, and so
come out as they were. -/
theorem foldl_put (items : Items) : ∀ before : Items,
    (before ++ items).Ordered →
    items.foldl (fun acc e => acc.put e.1 e.2) before = before ++ items := by
  induction items with
  | nil => intro before _; rw [List.append_nil]; rfl
  | cons e rest ih =>
      intro before h
      have hlast : ∀ x ∈ before, x.1 < e.1 := by
        intro x hx
        exact (List.pairwise_append.1 h).2.2 x hx e List.mem_cons_self
      have hall : before ++ e :: rest = before ++ [e] ++ rest := by simp
      rw [List.foldl_cons, put_of_last e.2 hlast, hall]
      exact ih (before ++ [e]) (hall ▸ h)

theorem ordered_foldl_put (entries : List (String × String)) :
    ∀ items : Items, items.Ordered →
      (entries.foldl (fun acc e => Items.put e.1 e.2 acc) items).Ordered := by
  induction entries with
  | nil => intro items h; exact h
  | cons e rest ih => intro items h; exact ih _ (h.put e.1 e.2)

/-- Items in order come back as they were. -/
theorem ofList_of_ordered {items : Items} (h : items.Ordered) :
    Items.ofList items = items :=
  foldl_put items [] h

theorem ordered_ofList (entries : List (String × String)) :
    (Items.ofList entries).Ordered :=
  ordered_foldl_put entries [] List.Pairwise.nil

/-- What is read from a file is in order. -/
theorem ordered_ofBytes? {bytes : Bytes} {items : Items}
    (h : Items.ofBytes? bytes = some items) : items.Ordered := by
  unfold Items.ofBytes? at h
  split at h
  · obtain ⟨entries, _, rfl⟩ := Option.map_eq_some_iff.1 h
    exact ordered_ofList entries
  · cases h

end Items

-- =============================================================== the file

namespace FileStore

open Effect (perform perform_append perform_cons)

variable {s : FileStore} {t : FileTree} {path : Path}

/-- Items that were written without a fault are in the file. -/
theorem read_persist (h : (s.persist t).1 = .ok ()) :
    (s.persist t).2.read s.path = .ok s.items.toBytes := by
  obtain ⟨t', ht⟩ : ∃ t', perform t (plan t s.path s.items) = (t', none) := by
    unfold persist at h
    split at h
    · next t' ht => exact ⟨t', ht⟩
    · cases h
  have htree : (s.persist t).2 = t' := by
    unfold persist
    rw [ht]
  -- the plan: directories, an empty sibling, its bytes, the new name
  obtain ⟨u, hbytes, hname⟩ := perform_append ht
  obtain ⟨v, _, hsibling⟩ := perform_append hbytes
  obtain ⟨w, hcreate, happend⟩ := perform_cons hsibling
  obtain ⟨x, hrename, hdone⟩ := perform_cons hname
  cases hdone
  have hempty := Effect.reach_of_create hcreate
  have hfull := Effect.reach_of_appends _ happend hempty
  have hfound := Effect.reach_of_rename hrename hfull
  rw [htree]
  unfold FileTree.read
  rw [hfound]
  rfl

/-- A file that holds the items of a store, in order, opens as the
store. -/
theorem openAt_of_read (hordered : s.items.Ordered)
    (h : t.read s.path = .ok s.items.toBytes) :
    openAt t s.path = .ok s := by
  have hitems : Items.ofBytes? s.items.toBytes = some s.items := by
    rw [Items.ofBytes?_toBytes, Items.ofList_of_ordered hordered]
  unfold openAt
  rw [h]
  split
  · next hnil =>
      cases hnil' : s.items.toBytes with
      | nil =>
          rw [hnil'] at hitems
          cases hitems
      | cons b bs => rw [hnil'] at hnil; cases hnil
  · next bytes _ heq =>
      cases heq
      rw [hitems]
  · next heq => cases heq
  · next heq => cases heq

/-- A store that was opened has its items in order. -/
theorem ordered_of_openAt (h : openAt t path = .ok s) :
    s.items.Ordered ∧ s.path = path := by
  unfold openAt at h
  split at h
  · cases h
    exact ⟨List.Pairwise.nil, rfl⟩
  · split at h
    · next items hitems =>
        cases h
        exact ⟨Items.ordered_ofBytes? hitems, rfl⟩
    · cases h
  · cases h
    exact ⟨List.Pairwise.nil, rfl⟩
  · cases h

-- ================================================================ writes

/-- A text that was put without a fault is in the file, which opens as the
store, whatever was in it before. -/
theorem openAt_of_set {key value : String} (hordered : s.items.Ordered)
    (h : (s.set t key value).1 = .ok ()) :
    openAt (s.set t key value).2.2 s.path = .ok (s.set t key value).2.1 :=
  openAt_of_read (s := { s with items := s.items.put key value })
    (hordered.put key value) (read_persist h)

/-- A value that was stored is found by a store that is opened then. -/
theorem openAt_set {key value : String} (hopen : openAt t path = .ok s)
    (h : (s.set t key value).1 = .ok ()) :
    openAt (s.set t key value).2.2 path = .ok (s.set t key value).2.1 := by
  obtain ⟨hordered, rfl⟩ := ordered_of_openAt hopen
  exact openAt_of_set hordered h

/-- So is the removal of a text. -/
theorem openAt_remove {key : String} (hopen : openAt t path = .ok s)
    (h : (s.remove t key).1 = .ok ()) :
    openAt (s.remove t key).2.2 path = .ok (s.remove t key).2.1 := by
  obtain ⟨hordered, rfl⟩ := ordered_of_openAt hopen
  cases hkey : s.items.get? key with
  | none =>
      simp only [remove, hkey]
      exact hopen
  | some value =>
      simp only [remove, hkey] at h ⊢
      exact openAt_of_read (s := { s with items := s.items.erase key })
        (hordered.erase key) (read_persist h)

end FileStore

-- ============================================================== storages

/-- A storage that a new start finds as it is: the file at the path opens
as just the store that is used. -/
def KeptAt (path : Path) (s : Storage) : Prop :=
  ∃ store tree, s = .file store tree
    ∧ FileStore.openAt tree path = .ok store

/-- A storage whose next writes all go well. -/
def WentWell (s : Storage) : List Command → Prop
  | [] => True
  | w :: ws => (s.execute w).1 = .ok () ∧ WentWell (s.execute w).2 ws

instance decidableOk : (r : Except StorageError Unit) →
    Decidable (r = .ok ())
  | .ok () => .isTrue rfl
  | .error _ => .isFalse nofun

instance decidableWentWell : (s : Storage) → (ws : List Command) →
    Decidable (s.WentWell ws)
  | _, [] => .isTrue trivial
  | s, w :: ws =>
    have := decidableWentWell (s.execute w).2 ws
    inferInstanceAs (Decidable (_ ∧ _))

/-- Writes go well as a whole just if the first ones do, and the others
behind them. -/
theorem wentWell_append {s : Storage} {ws vs : List Command} :
    s.WentWell (ws ++ vs) ↔ s.WentWell ws ∧ (s.after ws).WentWell vs := by
  induction ws generalizing s with
  | nil => exact ⟨fun h => ⟨trivial, h⟩, fun h => h.2⟩
  | cons w ws ih =>
      show _ ∧ (s.execute w).2.WentWell (ws ++ vs) ↔ (_ ∧ _) ∧ _
      rw [ih, and_assoc]
      rfl

/-- A write that goes well keeps the file up to date. -/
theorem KeptAt.execute {path : Path} {s : Storage} {w : Command}
    (h : s.KeptAt path) (hok : (s.execute w).1 = .ok ()) :
    (s.execute w).2.KeptAt path := by
  obtain ⟨store, tree, rfl, hopen⟩ := h
  cases w with
  | set key value => exact ⟨_, _, rfl, FileStore.openAt_set hopen hok⟩
  | remove key => exact ⟨_, _, rfl, FileStore.openAt_remove hopen hok⟩

/-- As long as no write fails, what is found at a new start is what the
storage holds. -/
theorem KeptAt.after {path : Path} {s : Storage} {ws : List Command}
    (h : s.KeptAt path) (hok : s.WentWell ws) :
    (s.after ws).KeptAt path := by
  induction ws generalizing s with
  | nil => exact h
  | cons w ws ih => exact ih (h.execute hok.1) hok.2

end SecurityConsole.Storage
