/-
File writes that are refused, and file writes that are stopped.

A write that is refused leaves the tree as it was, for it is refused
before anything has happened. The items in memory have changed by then,
and stay changed: the store goes on with a text that it said it could not
write, and the next write that goes well takes the text along
(`refused_write_keeps_iff`).

A write that is stopped is in one of its stages. The file is untouched
while a sibling is written, and complete once the sibling has its name.
But a file whose own name ends in `.tmp` is its own sibling
(`Path.temporary_eq_self_iff`). It is emptied and written in place, and
when the write stops in between there is neither the old text nor the new
one (`stopped_cases`, `exists_torn`). For all other names a write happens
as a whole or not at all (`write_all_or_nothing_iff`).
-/
import SecurityConsole.Proofs.Storage.Contents

namespace SecurityConsole.Storage

open Text (Bytes)

-- ============================================================== siblings

namespace Path

/-- A name that is its stem with the ending behind it has that ending. -/
theorem stem_append_eq_iff (name : List Char) :
    stem name ++ ['.', 't', 'm', 'p'] = name
      ↔ ∃ before, before ≠ [] ∧ name = before ++ ['.', 't', 'm', 'p'] := by
  constructor
  · intro h
    refine ⟨stem name, fun hnil => ?_, h.symm⟩
    rw [hnil] at h
    rw [← h] at hnil
    revert hnil
    decide
  · rintro ⟨before, hne, rfl⟩
    have hstem : stem (before ++ ['.', 't', 'm', 'p']) = before := by
      simp [stem, hne]
    rw [hstem]

/-- A file is its own sibling if its name ends that way. -/
theorem temporary_eq_self_iff {p : Path} (hp : p ≠ []) :
    p.temporary = p
      ↔ ∃ dir stem, stem ≠ "" ∧ p = dir ++ [stem ++ ".tmp"] := by
  obtain ⟨dir, name, rfl⟩ : ∃ dir name, p = dir ++ [name] :=
    ⟨p.dropLast, p.getLast hp, (List.dropLast_concat_getLast hp).symm⟩
  have hsibling : Path.temporary (dir ++ [name]) = dir
      ++ [String.ofList (stem name.toList ++ ['.', 't', 'm', 'p'])] := by
    simp [temporary]
  have hname : String.ofList (stem name.toList ++ ['.', 't', 'm', 'p']) = name
      ↔ stem name.toList ++ ['.', 't', 'm', 'p'] = name.toList := by
    rw [← String.toList_inj, String.toList_ofList]
  rw [hsibling, List.append_cancel_left_eq, List.singleton_inj, hname,
    stem_append_eq_iff]
  constructor
  · rintro ⟨before, hne, hbefore⟩
    refine ⟨dir, String.ofList before, by simpa using hne, ?_⟩
    rw [List.append_cancel_left_eq, List.singleton_inj, ← String.toList_inj]
    simpa using hbefore
  · rintro ⟨dir', text, hne, heq⟩
    obtain ⟨-, hlast⟩ := List.append_inj' heq rfl
    refine ⟨text.toList, by simpa using hne, ?_⟩
    rw [List.singleton_inj.1 hlast]
    simp

end Path

/-- The text of items begins with a brace. -/
theorem Items.toBytes_take_one (items : Items) :
    items.toBytes.take 1 = [0x7b] := by
  have hbrace : String.utf8EncodeChar '{' = [0x7b] := by decide
  unfold Items.toBytes Json.printTable Text.encode
  split
  · simp [Text.encodeChars, hbrace]
  · simp [Text.encodeChars, hbrace]

namespace FileStore

open Effect FileTree

variable {s : FileStore} {t : FileTree} {path : Path} {w : Command}

/-- A store and a tree that some writes have led to, of which any may have
been refused, since the store was opened. -/
def Reached (path : Path) (s : FileStore) (t : FileTree) : Prop :=
  ∃ (t₀ : FileTree) (s₀ : FileStore) (ws : List Command),
    t₀.Rooted ∧ openAt t₀ path = .ok s₀
      ∧ (Storage.file s₀ t₀).after ws = .file s t

/-- Whatever was tried on a store, its file still opens. -/
theorem Reached.sound (h : Reached path s t) : Sound path s t := by
  obtain ⟨t₀, s₀, ws, hrooted, hopen, hafter⟩ := h
  obtain ⟨s', u, hreached, hsound, -⟩ :=
    (Sound.of_openAt hrooted hopen).after ws
  rw [hafter] at hreached
  cases hreached
  exact hsound

-- =============================================================== refused

/-- A refused write leaves the tree, and changes the items all the
same. -/
theorem Sound.refused {s' : FileStore} {t' : FileTree} {e : StorageError}
    (h : Sound path s t)
    (hw : (Storage.file s t).execute w = (.error e, .file s' t')) :
    s.rewrites w = true ∧ s' = s.written w ∧ t' = t := by
  obtain ⟨rfl, -, hready, -⟩ := h
  rcases execute_cases hready w with
    ⟨-, hdone⟩ | ⟨hrw, hdone⟩ | ⟨-, -, u, -, -, hdone⟩
  · rw [hdone] at hw
    cases hw
  · rw [hdone] at hw
    cases hw
    exact ⟨hrw, rfl, rfl⟩
  · rw [hdone] at hw
    cases hw

/-- A write that has something to do changes nothing only by putting a
text where it stands already. -/
theorem written_eq_iff (hrw : s.rewrites w = true) :
    (s.written w).get? = s.get?
      ↔ ∃ key value, w = .set key value ∧ s.get? key = some value := by
  rw [get?_written]
  cases w with
  | set key value =>
      constructor
      · intro h
        have hkey := congrFun h key
        simp only [Contents.write, if_true] at hkey
        exact ⟨key, value, rfl, hkey.symm⟩
      · rintro ⟨k, v, heq, hget⟩
        cases heq
        funext other
        by_cases h : other = key
        · simp [Contents.write, h, hget]
        · simp [Contents.write, h]
  | remove key =>
      constructor
      · intro h
        have hkey := congrFun h key
        simp only [Contents.write, if_true] at hkey
        rw [rewrites, ← hkey] at hrw
        cases hrw
      · rintro ⟨k, v, heq, -⟩
        cases heq

/-- Whatever a tree has become: a write to it that goes well, and has
something to do, leaves a file that opens as the store. -/
theorem openAt_written {u : FileTree} (hordered : s.items.Ordered)
    (hrw : s.rewrites w = true)
    (hok : ((Storage.file s u).execute w).1 = .ok ()) :
    ∃ u', ((Storage.file s u).execute w).2 = .file (s.written w) u'
      ∧ openAt u' s.path = .ok (s.written w) := by
  have hpersist : (Storage.file s u).execute w
      = (((s.written w).persist u).1,
        .file (s.written w) ((s.written w).persist u).2) :=
    execute_of_rewrites hrw
  rw [hpersist] at hok ⊢
  exact ⟨_, rfl, openAt_of_read (s := s.written w) (hordered.write w)
    (read_persist hok)⟩

/-- A refused write leaves the store as it was only if there was nothing
to change.

A file that is opened again holds what it held. But every text in memory
is as if the write had gone well. So the store is as it was just when the
write was to put a text where it stands already. A removal that was
refused is taken for done when it is tried again, and nothing is written.
And the next write that goes well, of whatever key and whatever has become
of the tree, puts the refused change into the file as well. -/
theorem refused_write_keeps_iff {s' : FileStore} {t' : FileTree}
    {e : StorageError} (h : Reached path s t)
    (hw : (Storage.file s t).execute w = (.error e, .file s' t')) :
    ((s'.get? = s.get? ∧ openAt t' path = openAt t path)
        ↔ ∃ key value, w = .set key value ∧ s.get? key = some value)
      ∧ openAt t' path = openAt t path
      ∧ s'.get? = Contents.write s.get? w
      ∧ (∀ key, w = .remove key →
          (Storage.file s' t').execute w = (.ok (), .file s' t'))
      ∧ ∀ (u : FileTree) (v : Command), s'.rewrites v = true →
          ((Storage.file s' u).execute v).1 = .ok () →
          ∃ s'' u', ((Storage.file s' u).execute v).2 = .file s'' u'
            ∧ openAt u' path = .ok s''
            ∧ s''.get? = Contents.write (Contents.write s.get? w) v := by
  have hsound := h.sound
  obtain ⟨hrw, rfl, rfl⟩ := hsound.refused hw
  have hget := get?_written s w
  refine ⟨?_, rfl, hget, ?_, ?_⟩
  · rw [← written_eq_iff hrw]
    exact and_iff_left rfl
  · rintro key rfl
    have hgone : (s.written (.remove key)).get? key = none := by
      rw [hget]
      simp [Contents.write]
    have hidle : (s.written (.remove key)).rewrites (.remove key) = false := by
      simp only [rewrites, hgone, Option.isSome_none]
    rw [execute_of_idle hidle]
  · intro u v hv hok
    obtain ⟨u', hu', hopen⟩ :=
      openAt_written (hsound.ordered.write w) hv hok
    refine ⟨_, u', hu', ?_, ?_⟩
    · rw [← hsound.path_eq]
      exact hopen
    · rw [get?_written, hget]

/-- A directory stands in the place of the sibling. -/
def blocked : FileTree :=
  ⟨[(["session.tmp"], .dir),
    (["session.json"], .file (Text.encode "\x7b\"a\":\"1\"\x7d"))]⟩

/-- The text that could not be written is found in memory, and not in the
file. -/
theorem refused_write_on_blocked :
    ∃ s s' t', openAt blocked ["session.json"] = .ok s
      ∧ (Storage.file s blocked).execute (.set "b" "2")
        = (.error .io, .file s' t')
      ∧ openAt t' ["session.json"] = .ok s
      ∧ s.get? "b" = none ∧ s'.get? "b" = some "2" := by
  have hopen : openAt blocked ["session.json"]
      = .ok ⟨["session.json"], [("a", "1")]⟩ := by rfl
  have hw : (Storage.file ⟨["session.json"], [("a", "1")]⟩ blocked).execute
        (.set "b" "2")
      = (.error .io,
        .file ⟨["session.json"], [("a", "1"), ("b", "2")]⟩ blocked) := by rfl
  obtain ⟨-, hfile, hmemory, -⟩ := refused_write_keeps_iff
    ⟨blocked, _, [], by decide +kernel, hopen, rfl⟩ hw
  refine ⟨_, _, _, hopen, hw, hfile.trans hopen, rfl, ?_⟩
  rw [hmemory]
  rfl

-- =============================================================== stopped

/-- The tree when a write is stopped after some of its effects. -/
def stopped (s : FileStore) (t : FileTree) (w : Command) (n : Nat) :
    FileTree :=
  (perform t ((s.effects t w).take n)).1

theorem stopped_of_idle (h : s.rewrites w = false) (n : Nat) :
    s.stopped t w n = t := by
  simp [stopped, effects, h, perform]

theorem stopped_of_rewrites (h : s.rewrites w = true) (n : Nat) :
    s.stopped t w n
      = (perform t ((plan t s.path (s.written w).items).take n)).1 := by
  simp only [stopped, effects, h, if_true]
  rfl

/-- A write that is not stopped. -/
theorem stopped_length (s : FileStore) (t : FileTree) (w : Command) :
    ((Storage.file s t).execute w).2
      = .file (s.written w) (s.stopped t w (s.effects t w).length) := by
  rw [execute_eq, stopped, List.take_length]
  cases perform t (s.effects t w) with
  | mk u fault => cases fault <;> rfl

/-- The path leads to what it led to, or to the whole new text, or to a
part of the new text if the file is its own sibling. -/
theorem Sound.stopped_cases (h : Sound path s t) (w : Command) (n : Nat) :
    openAt (s.stopped t w n) path = openAt t path
      ∨ openAt (s.stopped t w n) path = .ok (s.written w)
      ∨ path.temporary = path ∧ s.rewrites w = true
        ∧ ∃ torn, torn <+: (s.written w).items.toBytes
          ∧ (s.stopped t w n).read path = .ok torn := by
  obtain ⟨rfl, hordered, hready, -⟩ := h
  have hitems : (s.written w).items.Ordered := hordered.write w
  cases hrw : s.rewrites w with
  | false => exact .inl (by rw [stopped_of_idle hrw])
  | true =>
      rw [stopped_of_rewrites hrw]
      by_cases hsibling : t.at? s.path.temporary = some .dir
      · exact .inl (by rw [(perform_blocked hready hsibling).2])
      -- by the stage that the write was stopped in
      have hstage := stage_of_take (s.written w).items hready hsibling n
      generalize (perform t _).1 = v at hstage ⊢
      cases hstage with
      | preparing hmade =>
          exact .inl (hready.openAt_eq (hmade.ready hready) hmade.at?_path)
      | done hmade hway =>
          rw [← hmade.at?_temporary] at hsibling
          exact .inr (.inl (openAt_replaced (s := s.written w) hitems
            (hmade.ready hready) hway hsibling))
      | @writing u torn hmade hway hpre =>
          have hu := hmade.ready hready
          by_cases hsame : s.path.temporary = s.path
          · have hread : (u.put s.path (.file torn)).read s.path
                = .ok torn := by
              unfold FileTree.read
              rw [reach_put_self hway hready.ne_nil]
            rw [hsame]
            exact .inr (.inr ⟨rfl, rfl, torn, hpre, hread⟩)
          · rw [← hmade.at?_temporary] at hsibling
            refine .inl (hready.openAt_eq (hu.put_temporary hway hsibling) ?_)
            rw [at?_put_of_ne (Ne.symm hsame), hmade.at?_path]

/-- A file that is its own sibling can be torn: one byte of the new text
has been written, and the old text is gone. -/
theorem Sound.exists_torn (h : Sound path s t) (hself : path.temporary = path)
    (hrw : s.rewrites w = true) :
    ∃ n, openAt (s.stopped t w n) path = .error .serialization := by
  obtain ⟨rfl, -, hready, -⟩ := h
  have hsibling : t.at? s.path.temporary ≠ some .dir := by
    rw [hself]
    exact hready.noDir
  have hbrace := Items.toBytes_take_one (s.written w).items
  have hlen : 1 ≤ (s.written w).items.toBytes.length := by
    have := congrArg List.length hbrace
    rw [List.length_take, List.length_singleton] at this
    omega
  obtain ⟨u, hmade, hway, hu⟩ :=
    perform_written (s.written w).items hready hsibling 1
  refine ⟨(missing t s.path).length + (1 + 1), ?_⟩
  rw [stopped_of_rewrites hrw, take_plan hlen, hu, hself, hbrace]
  have hread : (u.put s.path (.file [0x7b])).read s.path = .ok [0x7b] := by
    unfold FileTree.read
    rw [reach_put_self hway hready.ne_nil]
  have hnone : Items.ofBytes? [0x7b] = none := by rfl
  simp only [openAt, hread, hnone]

/-- A write happens as a whole or not at all, except to a file that is its
own sibling.

The store may hold any items, and the file any others. When a write has
been stopped after some of its effects, the file opens as it did before,
or as the store that the write leaves. There is one exception: a file with
a name that ends in `.tmp`. It is written in place, and what is found
there may be a part of the new text. It always can come to a part that
does not open. -/
theorem write_all_or_nothing_iff {before : FileStore} (hrooted : t.Rooted)
    (hordered : s.items.Ordered) (hopen : openAt t s.path = .ok before)
    (w : Command) :
    ((Storage.file s t).execute w).2
        = .file (s.written w) (s.stopped t w (s.effects t w).length)
      ∧ (∀ n, openAt (s.stopped t w n) s.path = .ok before
          ∨ openAt (s.stopped t w n) s.path = .ok (s.written w)
          ∨ s.path.temporary = s.path ∧ s.rewrites w = true
            ∧ ∃ torn, torn <+: (s.written w).items.toBytes
              ∧ (s.stopped t w n).read s.path = .ok torn)
      ∧ ((∀ n, openAt (s.stopped t w n) s.path = .ok before
            ∨ openAt (s.stopped t w n) s.path = .ok (s.written w))
          ↔ s.rewrites w = false
            ∨ ∀ dir stem, stem ≠ "" → s.path ≠ dir ++ [stem ++ ".tmp"]) := by
  have hready := ready_of_openAt hrooted hopen
  have hsound : Sound s.path s t := ⟨rfl, hordered, hready, before, hopen⟩
  have hcases := hsound.stopped_cases w
  simp only [hopen] at hcases
  have hself := Path.temporary_eq_self_iff hready.ne_nil
  refine ⟨stopped_length s t w, hcases, ?_⟩
  constructor
  · intro hall
    cases hrw : s.rewrites w with
    | false => exact .inl rfl
    | true =>
        refine .inr fun dir stem hne heq => ?_
        obtain ⟨n, hn⟩ :=
          hsound.exists_torn (hself.2 ⟨dir, stem, hne, heq⟩) hrw
        rcases hall n with hbefore | hafter
        · rw [hn] at hbefore
          cases hbefore
        · rw [hn] at hafter
          cases hafter
  · intro hsafe n
    rcases hcases n with hbefore | hafter | ⟨hsame, hrw, -⟩
    · exact .inl hbefore
    · exact .inr hafter
    · rcases hsafe with hidle | hother
      · rw [hidle] at hrw
        cases hrw
      · obtain ⟨dir, stem, hne, heq⟩ := hself.1 hsame
        exact absurd heq (hother dir stem hne)

/-- A store in a file that is its own sibling. -/
def ownSibling : FileTree :=
  ⟨[(["session.tmp"], .file (Text.encode "\x7b\"a\":\"1\"\x7d"))]⟩

/-- A write to it may leave neither the old text nor the new one. -/
theorem own_sibling_not_all_or_nothing :
    ∃ s, openAt ownSibling ["session.tmp"] = .ok s
      ∧ ¬ ∀ n, openAt (s.stopped ownSibling (.set "b" "2") n)
            ["session.tmp"] = .ok s
          ∨ openAt (s.stopped ownSibling (.set "b" "2") n)
            ["session.tmp"] = .ok (s.written (.set "b" "2")) := by
  have hopen : openAt ownSibling ["session.tmp"]
      = .ok ⟨["session.tmp"], [("a", "1")]⟩ := by rfl
  obtain ⟨hordered, -⟩ := ordered_of_openAt hopen
  obtain ⟨-, -, hiff⟩ := write_all_or_nothing_iff
    (s := ⟨["session.tmp"], [("a", "1")]⟩) (by decide +kernel)
    hordered hopen (.set "b" "2")
  refine ⟨_, hopen, fun hall => ?_⟩
  rcases hiff.1 hall with hidle | hother
  · cases hidle
  · exact hother [] "session" (by decide) rfl

end FileStore
end SecurityConsole.Storage
