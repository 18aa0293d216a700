/-
A store in a file is a map, in memory and on disk.

A write of a store is its effects on the tree, behind a change of the
items in memory (`execute_eq`). Three things can come of it: it has
nothing to do, it is refused and leaves the tree, or it replaces the file
by one that holds the new items (`execute_cases`). Whatever comes of it,
the file goes on to open (`Sound.execute`), and the items in memory are
those of a map to which the write was applied (`get?_written`). As long as
writes go well, the file holds just these items (`file_store_is_map`).
-/
import SecurityConsole.Proofs.Storage.Stages

namespace SecurityConsole.Storage

open Text (Bytes)

-- ================================================================== maps

/-- Texts under keys, whatever holds them. -/
abbrev Contents := String → Option String

namespace Contents

/-- The texts after a write. -/
def write (f : Contents) : Command → Contents
  | .set key value => fun k => if k = key then some value else f k
  | .remove key => fun k => if k = key then none else f k

/-- The texts after some writes. -/
def after (f : Contents) (ws : List Command) : Contents := ws.foldl write f

end Contents

namespace Items

/-- The items after a write. -/
def write (items : Items) : Command → Items
  | .set key value => items.put key value
  | .remove key => items.erase key

/-- A write to the items is a write to the map that they are. -/
theorem get?_write (items : Items) (w : Command) :
    (items.write w).get? = Contents.write items.get? w := by
  funext key
  cases w with
  | set k value =>
      by_cases h : key = k
      · subst h
        simpa [write, Contents.write] using get?_put_self key value items
      · simpa [write, Contents.write, h] using get?_put_of_ne h value items
  | remove k =>
      by_cases h : key = k
      · subst h
        simpa [write, Contents.write] using get?_erase_self key items
      · simpa [write, Contents.write, h] using get?_erase_of_ne h items

theorem Ordered.write {items : Items} (h : items.Ordered) (w : Command) :
    (items.write w).Ordered := by
  cases w with
  | set key value => exact h.put key value
  | remove key => exact h.erase key

/-- Erasing what is not there leaves the items. -/
theorem erase_of_get?_none {items : Items} {key : String}
    (h : items.get? key = none) : items.erase key = items := by
  unfold get? at h
  rw [List.lookup_eq_none_iff] at h
  refine List.filter_eq_self.2 fun e he => ?_
  have hne := h e he
  simp only [bne_iff_ne] at hne
  simpa using Ne.symm hne

end Items

-- ================================================================ writes

namespace FileStore

open Effect FileTree

variable {s : FileStore} {t : FileTree} {path : Path} {w : Command}

/-- Whether a write rewrites the file: there is nothing to do where a text
is removed that is not there. -/
def rewrites (s : FileStore) : Command → Bool
  | .set _ _ => true
  | .remove key => (s.get? key).isSome

/-- The store after a write, however it ends. -/
def written (s : FileStore) (w : Command) : FileStore :=
  { s with items := s.items.write w }

theorem get?_written (s : FileStore) (w : Command) :
    (s.written w).get? = Contents.write s.get? w :=
  s.items.get?_write w

/-- A write that has nothing to do leaves the store. -/
theorem written_of_idle (h : s.rewrites w = false) : s.written w = s := by
  cases w with
  | set key value => cases h
  | remove key =>
      have hnone : s.items.get? key = none :=
        Option.isSome_eq_false_iff.1 h |> Option.isNone_iff_eq_none.1
      unfold written Items.write
      simp only [Items.erase_of_get?_none hnone]

/-- A removal of what is not there does not touch the file. -/
theorem execute_of_idle (h : s.rewrites w = false) :
    (Storage.file s t).execute w = (.ok (), .file s t) := by
  cases w with
  | set key value => cases h
  | remove key =>
      have hnone : s.items.get? key = none :=
        Option.isSome_eq_false_iff.1 h |> Option.isNone_iff_eq_none.1
      simp only [Storage.execute, Storage.remove, remove, hnone]

/-- Everything else rewrites it, with the items as they are then in
memory. -/
theorem execute_of_rewrites (h : s.rewrites w = true) :
    (Storage.file s t).execute w
      = (((s.written w).persist t).1,
        .file (s.written w) ((s.written w).persist t).2) := by
  cases w with
  | set key value => rfl
  | remove key =>
      obtain ⟨value, hvalue⟩ := Option.isSome_iff_exists.1 h
      have hget : s.items.get? key = some value := hvalue
      simp only [Storage.execute, Storage.remove, remove, hget]
      rfl

/-- The effects of a write on a tree. -/
def effects (s : FileStore) (t : FileTree) (w : Command) : List Effect :=
  if s.rewrites w then plan t s.path (s.items.write w) else []

/-- A write is a change of the items, and then its effects. -/
theorem execute_eq (s : FileStore) (t : FileTree) (w : Command) :
    (Storage.file s t).execute w
      = match perform t (s.effects t w) with
        | (u, none) => (.ok (), .file (s.written w) u)
        | (u, some _) => (.error .io, .file (s.written w) u) := by
  cases h : s.rewrites w with
  | false =>
      simp only [effects, h, execute_of_idle h, written_of_idle h]
      rfl
  | true =>
      have heffects : s.effects t w
          = plan t (s.written w).path (s.written w).items := by
        simp only [effects, h, if_true]
        rfl
      rw [execute_of_rewrites h, heffects]
      unfold persist
      cases perform t (plan t (s.written w).path (s.written w).items) with
      | mk u fault => cases fault <;> rfl

-- ============================================================== outcomes

/-- What comes of a write: it has nothing to do, it is refused and leaves
the tree, or it replaces the file. -/
theorem execute_cases (h : t.Ready s.path) (w : Command) :
    s.rewrites w = false
        ∧ (Storage.file s t).execute w = (.ok (), .file (s.written w) t)
      ∨ s.rewrites w = true
        ∧ (Storage.file s t).execute w
          = (.error .io, .file (s.written w) t)
      ∨ s.rewrites w = true ∧ t.at? s.path.temporary ≠ some .dir
        ∧ ∃ u, Made s.path t u ∧ u.Leads s.path
          ∧ (Storage.file s t).execute w
            = (.ok (), .file (s.written w)
                (u.replaced s.path (s.written w).items.toBytes)) := by
  rw [execute_eq]
  cases hw : s.rewrites w with
  | false =>
      refine .inl ⟨rfl, ?_⟩
      simp only [effects, hw]
      rfl
  | true =>
      refine .inr ?_
      simp only [effects, hw, if_true]
      by_cases hsibling : t.at? s.path.temporary = some .dir
      · refine .inl ⟨trivial, ?_⟩
        rw [(perform_blocked h hsibling).1]
      · obtain ⟨u, hmade, hway, hu⟩ :=
          perform_plan (s.items.write w) h hsibling
        refine .inr ⟨trivial, hsibling, u, hmade, hway, ?_⟩
        rw [hu]
        rfl

/-- A file that was replaced by one that holds the items of a store opens
as the store. -/
theorem openAt_replaced {u : FileTree} (hordered : s.items.Ordered)
    (h : u.Ready s.path) (hway : u.Leads s.path)
    (hsibling : u.at? s.path.temporary ≠ some .dir) :
    openAt (u.replaced s.path s.items.toBytes) s.path = .ok s :=
  openAt_of_read hordered ((h.replaced hway hsibling).read_of_file
    (at?_replaced_path h.ne_nil))

/-- A store and a tree that belong together: the items are in order, and
the file of the store opens, whatever it holds. -/
structure Sound (path : Path) (s : FileStore) (t : FileTree) : Prop where
  path_eq : s.path = path
  ordered : s.items.Ordered
  ready : t.Ready path
  opens : ∃ found, openAt t path = .ok found

namespace Sound

theorem of_openAt (hrooted : t.Rooted) (h : openAt t path = .ok s) :
    Sound path s t :=
  ⟨(ordered_of_openAt h).2, (ordered_of_openAt h).1,
    ready_of_openAt hrooted h, s, h⟩

/-- A write keeps store and tree together. -/
theorem execute (h : Sound path s t) (w : Command) :
    ∃ u, ((Storage.file s t).execute w).2 = .file (s.written w) u
      ∧ Sound path (s.written w) u := by
  obtain ⟨rfl, hordered, hready, hopens⟩ := h
  have hitems : (s.written w).items.Ordered := hordered.write w
  rcases execute_cases hready w with
    ⟨-, hw⟩ | ⟨-, hw⟩ | ⟨-, hsibling, u, hmade, hway, hw⟩
  · exact ⟨t, by rw [hw], rfl, hitems, hready, hopens⟩
  · exact ⟨t, by rw [hw], rfl, hitems, hready, hopens⟩
  · rw [← hmade.at?_temporary] at hsibling
    have hu := hmade.ready hready
    exact ⟨_, by rw [hw], rfl, hitems, hu.replaced hway hsibling, _,
      openAt_replaced (s := s.written w) hitems hu hway hsibling⟩

/-- So do any writes, and the items in memory are those of a map that they
were applied to. -/
theorem after (h : Sound path s t) (ws : List Command) :
    ∃ s' u, (Storage.file s t).after ws = .file s' u ∧ Sound path s' u
      ∧ s'.get? = Contents.after s.get? ws := by
  induction ws generalizing s t with
  | nil => exact ⟨s, t, rfl, h, rfl⟩
  | cons w ws ih =>
      obtain ⟨u, hw, hu⟩ := h.execute w
      obtain ⟨s', v, hws, hv, hget⟩ := ih hu
      refine ⟨s', v, ?_, hv, ?_⟩
      · rw [← hws, ← hw]
        rfl
      · rw [hget, get?_written]
        rfl

end Sound
end FileStore

-- ============================================================= rewriting

/-- A tree in which the file at a path was rewritten. Its temporary
sibling is gone, and nothing else has changed, except that directories
that were missing on the way have been made. -/
structure FileTree.Rewritten (path : Path) (t u : FileTree) : Prop where
  sibling : path.temporary ≠ path → u.at? path.temporary = none
  elsewhere : ∀ q, q ≠ path → q ≠ path.temporary →
    u.at? q = t.at? q
      ∨ (q <+: path ∧ t.at? q = none ∧ u.at? q = some .dir)

/-- Directories on the way, and the file behind them: nothing else has
changed. -/
theorem FileTree.Made.rewritten {path : Path} {t u : FileTree}
    {bytes : Bytes} (h : Made path t u) (hpath : path ≠ []) :
    Rewritten path t (u.replaced path bytes) := by
  refine ⟨at?_replaced_temporary hpath, fun q hq hsibling => ?_⟩
  rw [at?_replaced_of_ne hq hsibling]
  rcases h.same q with hsame | ⟨hpre, -, hnone, hdir⟩
  · exact .inl hsame
  · exact .inr ⟨hpre, hnone, hdir⟩

open FileStore FileTree in
/-- A store in a file is a map that is kept.

From any file that opens, and after any writes that all went well: every
key has the text that a map has to which the writes were applied, and a
second store that is opened at the path is the same as the first. A write
that goes well then has the file rewritten and leaves the rest of the
tree, or it removes a text that is not there, and leaves all of it. -/
theorem file_store_is_map {t : FileTree} {path : Path} {s : FileStore}
    {ws : List Command} (hrooted : t.Rooted) (hopen : openAt t path = .ok s)
    (hok : (Storage.file s t).WentWell ws) :
    ∃ s' t', (Storage.file s t).after ws = .file s' t'
      ∧ (∀ key, s'.get? key = Contents.after s.get? ws key)
      ∧ openAt t' path = .ok s'
      ∧ ∀ w, ((Storage.file s' t').execute w).1 = .ok () →
        ∃ u, ((Storage.file s' t').execute w).2 = .file (s'.written w) u
          ∧ (s'.rewrites w = true → Rewritten path t' u)
          ∧ ∀ key, w = .remove key → s'.get? key = none → u = t' := by
  obtain ⟨s', t', hafter, hsound, hget⟩ :=
    (Sound.of_openAt hrooted hopen).after ws
  obtain ⟨store, tree, hkept, hreopen⟩ :=
    KeptAt.after ⟨s, t, rfl, hopen⟩ hok
  rw [hafter] at hkept
  cases hkept
  refine ⟨s', t', hafter, congrFun hget, hreopen, fun w hw => ?_⟩
  obtain ⟨rfl, -, hready, -⟩ := hsound
  have hidle : ∀ key, w = .remove key → s'.get? key = none →
      s'.rewrites w = false := by
    rintro key rfl hnone
    simp only [rewrites, hnone, Option.isSome_none]
  rcases execute_cases hready w with
    ⟨hrw, hdone⟩ | ⟨-, hdone⟩ | ⟨hrw, -, u, hmade, -, hdone⟩
  · refine ⟨t', by rw [hdone], fun h => ?_, fun _ _ _ => rfl⟩
    rw [hrw] at h
    cases h
  · rw [hdone] at hw
    cases hw
  · refine ⟨_, by rw [hdone], fun _ => hmade.rewritten hready.ne_nil,
      fun key hkey hnone => ?_⟩
    rw [hidle key hkey hnone] at hrw
    cases hrw

/-- A directory with a store, a file that somebody left in the place of the
sibling, and a file of somebody else. -/
def crowded : FileTree :=
  ⟨[(["deep"], .dir),
    (["deep", "notes"], .file [0x6e]),
    (["deep", "session.tmp"], .file [0x6f]),
    (["deep", "session.json"],
      .file (Text.encode "\x7b\"b\":\"2\",\"a\":\"1\"\x7d"))]⟩

/-- The store in it. -/
def crowdedStore : FileStore :=
  ⟨["deep", "session.json"], [("a", "1"), ("b", "2")]⟩

/-- A store beside other files, whose keys and values are no plain text.
One key is stored, one is removed, and one was never there. -/
theorem crowded_store_is_map :
    ∃ s' t', (Storage.file crowdedStore crowded).after
        [.set "ä\n" "x\"y", .remove "b", .remove "gone"] = .file s' t'
      ∧ s'.get? "ä\n" = some "x\"y" ∧ s'.get? "b" = none
      ∧ FileStore.openAt t' ["deep", "session.json"] = .ok s' := by
  have hrooted : crowded.Rooted := by decide +kernel
  have hopen : FileStore.openAt crowded ["deep", "session.json"]
      = .ok crowdedStore := by rfl
  have hok : (Storage.file crowdedStore crowded).WentWell
      [.set "ä\n" "x\"y", .remove "b", .remove "gone"] := by decide +kernel
  obtain ⟨s', t', hafter, hget, hreopen, -⟩ :=
    file_store_is_map hrooted hopen hok
  refine ⟨s', t', hafter, ?_, ?_, hreopen⟩
  · rw [hget]
    rfl
  · rw [hget]
    rfl

end SecurityConsole.Storage
