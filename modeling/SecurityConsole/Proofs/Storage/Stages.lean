/-
The stages of a file write.

In a directory tree everything stands in a directory (`Rooted`), so what
a path leads to is decided by what stands there, unless a file stands in
the way (`Ready.openAt_eq`). A store that opens has no file in the way
(`ready_of_openAt`), and its write is sure to get through: it makes the
directories that are missing (`Made`), it writes the temporary sibling
byte by byte, and the sibling takes the place of the file (`replaced`).
Stopped after any number of effects it is in one of these stages
(`stage_of_take`). The one thing that can go wrong is a directory in the
place of the sibling, and then nothing has happened yet
(`perform_blocked`).
-/
import SecurityConsole.Proofs.Storage.Reopening

namespace SecurityConsole.Storage

open Text (Bytes)

-- ============================================================== siblings

namespace Path

variable {p : Path}

/-- The sibling stands in the same directory. -/
theorem parent_temporary (p : Path) : p.temporary.parent = p.parent := by
  unfold temporary parent
  cases h : p.getLast? with
  | none => rfl
  | some name => simp

/-- The sibling stands as deep in the tree as the file. -/
theorem length_temporary (p : Path) : p.temporary.length = p.length := by
  unfold temporary
  cases h : p.getLast? with
  | none => rfl
  | some name =>
      have hne : p ≠ [] := by
        rintro rfl
        cases h
      have hpos := List.length_pos_iff.2 hne
      simp
      omega

/-- The sibling is on no way to the path. -/
theorem ne_temporary {q : Path} (hq : q <+: p) (hne : q ≠ p) :
    q ≠ p.temporary := by
  intro heq
  have hlen := congrArg List.length heq
  rw [length_temporary] at hlen
  exact hne (hq.eq_of_length hlen)

theorem temporary_ne_nil (h : p ≠ []) : p.temporary ≠ [] := by
  intro hnil
  have hlen := p.length_temporary
  rw [hnil] at hlen
  exact h (List.length_eq_zero_iff.1 hlen.symm)

end Path

-- ================================================================= trees

namespace FileTree

variable {t u v : FileTree} {p q : Path} {e : Entry}

/-- Everything stands in a directory. -/
def Rooted (t : FileTree) : Prop := ∀ p e, t.at? p = some e → t.Leads p

/-- No file stands in the way to a path. -/
def Clear (t : FileTree) (p : Path) : Prop :=
  ∀ q, q <+: p → q ≠ p → t.at? q = some .dir ∨ t.at? q = none

theorem ne_dir_of_none (h : t.at? p = none) : t.at? p ≠ some .dir := by
  rw [h]
  nofun

/-- What was taken away is gone. -/
theorem at?_erase_self (h : p ≠ []) : (t.erase p).at? p = none := by
  unfold at? erase
  rw [if_neg h, List.lookup_eq_none_iff]
  intro x hx
  have hne := (List.mem_filter.1 hx).2
  simp only [decide_eq_true_eq] at hne
  simpa using fun heq => hne heq.symm

/-- What is put last at a path counts. -/
theorem put_put (t : FileTree) (p : Path) (e d : Entry) :
    (t.put p e).put p d = t.put p d := by
  simp [put, List.filter_filter]

/-- Taking away what was put leaves what taking away had left. -/
theorem erase_put (t : FileTree) (p : Path) (e : Entry) :
    (t.put p e).erase p = t.erase p := by
  simp [put, erase, List.filter_filter]

/-- Putting something where something was taken away is putting it
outright. -/
theorem put_erase (t : FileTree) (p : Path) (e : Entry) :
    (t.erase p).put p e = t.put p e := by
  simp [put, erase, List.filter_filter]

/-- The same ways lead to the sibling. -/
theorem leads_temporary_iff (hp : p ≠ []) :
    t.Leads p.temporary ↔ t.Leads p := by
  rw [leads_iff (Path.temporary_ne_nil hp), Path.parent_temporary,
    ← leads_iff hp]

/-- A path is led to if its beginnings are directories. -/
theorem leads_of_take (h : ∀ j < p.length, t.at? (p.take j) = some .dir) :
    t.Leads p := by
  intro q hq hne
  have hlen := hq.length_le
  have hlt : q.length ≠ p.length := fun heq => hne (hq.eq_of_length heq)
  rw [List.prefix_iff_eq_take.1 hq]
  exact h _ (by omega)

/-- Whether everything stands in a directory can be seen from the list of
the tree. -/
theorem rooted_iff : t.Rooted ↔
    ∀ x ∈ t.entries, ∀ j < x.1.length, t.at? (x.1.take j) = some .dir := by
  constructor
  · intro h x hx j hj
    have hne : x.1 ≠ [] := List.length_pos_iff.1 (by omega)
    obtain ⟨e, he⟩ : ∃ e, t.entries.lookup x.1 = some e := by
      refine Option.isSome_iff_exists.1 (Option.isSome_iff_ne_none.2 ?_)
      intro hnone
      have := List.lookup_eq_none_iff.1 hnone x hx
      simp at this
    refine h x.1 e (by simpa [at?, hne] using he) _ (List.take_prefix _ _) ?_
    intro heq
    have hlen := congrArg List.length heq
    rw [List.length_take] at hlen
    omega
  · intro h p e hp
    refine leads_of_take fun j hj => ?_
    have hne : p ≠ [] := List.length_pos_iff.1 (by omega)
    have hlookup : t.entries.lookup p = some e := by
      simpa [at?, hne] using hp
    obtain ⟨before, behind, hentries, -⟩ := List.lookup_eq_some_iff.1 hlookup
    exact h (p, e) (by simp [hentries]) j hj

instance (t : FileTree) : Decidable t.Rooted :=
  decidable_of_iff' _ rooted_iff

/-- What keeps the directories keeps all ways. -/
theorem Leads.mono (h : t.Leads q)
    (hdirs : ∀ r, t.at? r = some .dir → u.at? r = some .dir) :
    u.Leads q :=
  fun r hr hne => hdirs r (h r hr hne)

/-- A path of a directory is another one than a path that has none. -/
theorem ne_of_dir {r : Path} (hr : t.at? r = some .dir)
    (hp : t.at? p ≠ some .dir) : r ≠ p := by
  intro heq
  rw [heq] at hr
  exact hp hr

/-- So does what is put elsewhere than in the place of a directory. -/
theorem Leads.put_of_ne_dir (h : t.Leads q) (hp : t.at? p ≠ some .dir) :
    (t.put p e).Leads q := by
  refine h.mono fun r hr => ?_
  rw [at?_put_of_ne (ne_of_dir hr hp)]
  exact hr

/-- Taking a file away cuts no way off. -/
theorem Leads.erase (h : t.Leads q) (hp : t.at? p ≠ some .dir) :
    (t.erase p).Leads q := by
  refine h.mono fun r hr => ?_
  rw [at?_erase_of_ne (ne_of_dir hr hp)]
  exact hr

/-- A file that is put into a directory keeps the tree rooted. -/
theorem Rooted.put (h : t.Rooted) (hleads : t.Leads p)
    (hp : t.at? p ≠ some .dir) : (t.put p e).Rooted := by
  intro q d hq
  by_cases heq : q = p
  · subst heq
    exact hleads.put
  · rw [at?_put_of_ne heq] at hq
    exact (h q d hq).put_of_ne_dir hp

/-- A file that is taken away does so too: nothing stands in a file. -/
theorem Rooted.erase (h : t.Rooted) (hp : t.at? p ≠ some .dir) :
    (t.erase p).Rooted := by
  intro q d hq
  by_cases heq : q = p
  · subst heq
    have hnil : q ≠ [] := Effect.ne_nil_of_at? hp
    rw [at?_erase_self hnil] at hq
    cases hq
  · rw [at?_erase_of_ne heq] at hq
    exact (h q d hq).erase hp

-- ================================================================= ways

/-- A way without files ends where something is missing, if nothing stands
at its end. -/
theorem reachFrom_missing (p : Path) : ∀ reached : Path,
    (∀ q, q <+: p → q ≠ p → t.at? (reached ++ q) = some .dir
      ∨ t.at? (reached ++ q) = none) →
    t.at? (reached ++ p) = none →
    t.reachFrom reached p = .error .missing := by
  induction p with
  | nil =>
      intro reached _ hend
      rw [List.append_nil] at hend
      unfold reachFrom
      rw [hend]
  | cons name rest ih =>
      intro reached hway hend
      obtain ⟨hhere, hbehind⟩ := (forall_before_cons_iff
        (P := fun q => t.at? (reached ++ q) = some .dir
          ∨ t.at? (reached ++ q) = none)).1 hway
      rw [List.append_nil] at hhere
      unfold reachFrom
      rcases hhere with hdir | hnone
      · rw [hdir]
        refine ih (reached ++ [name]) ?_ (by simpa using hend)
        simpa using hbehind
      · rw [hnone]

/-- A way on which a file stands leads nowhere. -/
theorem reachFrom_notDirectory (q : Path) : ∀ (p reached : Path),
    q <+: p → q ≠ p →
    (∀ r, r <+: q → r ≠ q → t.at? (reached ++ r) = some .dir) →
    (∃ bytes, t.at? (reached ++ q) = some (.file bytes)) →
    t.reachFrom reached p = .error .notDirectory := by
  induction q with
  | nil =>
      intro p reached _ hne _ hfile
      obtain ⟨bytes, hfile⟩ := hfile
      rw [List.append_nil] at hfile
      cases p with
      | nil => exact absurd rfl hne
      | cons name rest =>
          unfold reachFrom
          rw [hfile]
  | cons m q ih =>
      intro p reached hq hne hway hfile
      cases p with
      | nil => exact absurd (List.prefix_nil.1 hq) (List.cons_ne_nil _ _)
      | cons name rest =>
          obtain ⟨rfl, hrest⟩ := List.cons_prefix_cons.1 hq
          obtain ⟨hhere, hbehind⟩ := (forall_before_cons_iff
            (P := fun r => t.at? (reached ++ r) = some .dir)).1 hway
          rw [List.append_nil] at hhere
          unfold reachFrom
          rw [hhere]
          refine ih rest (reached ++ [m]) hrest (by simpa using hne) ?_
            (by simpa using hfile)
          simpa using hbehind

/-- A path at which a file is, or can be made: no file stands in the way,
and no directory in its place. -/
structure Ready (t : FileTree) (p : Path) : Prop where
  rooted : t.Rooted
  clear : t.Clear p
  noDir : t.at? p ≠ some .dir

namespace Ready

theorem ne_nil (h : t.Ready p) : p ≠ [] := Effect.ne_nil_of_at? h.noDir

/-- What stands at a path that is ready is reached. -/
theorem reach_of_file (h : t.Ready p) (hp : t.at? p = some e) :
    t.reach p = .ok e :=
  reach_eq_ok_iff.2 ⟨h.rooted p e hp, hp⟩

/-- And what does not stand there is missing, and nothing else is wrong
with the path. -/
theorem reach_of_none (h : t.Ready p) (hp : t.at? p = none) :
    t.reach p = .error .missing :=
  reachFrom_missing p [] (fun q hq hne => h.clear q hq hne) hp

/-- What a store finds at a path is what stands there. -/
theorem openAt_eq (ht : t.Ready p) (hu : u.Ready p)
    (hat : u.at? p = t.at? p) :
    FileStore.openAt u p = FileStore.openAt t p := by
  have hreach : u.reach p = t.reach p := by
    cases hp : t.at? p with
    | none => rw [ht.reach_of_none hp, hu.reach_of_none (hat.trans hp)]
    | some e => rw [ht.reach_of_file hp, hu.reach_of_file (hat.trans hp)]
  unfold FileStore.openAt read
  rw [hreach]

end Ready

/-- Where a store opens, its file is there or can be made. -/
theorem ready_of_openAt {s : FileStore} (hrooted : t.Rooted)
    (h : FileStore.openAt t p = .ok s) : t.Ready p := by
  refine ⟨hrooted, fun q hq hne => ?_, fun hdir => ?_⟩
  · cases hat : t.at? q with
    | none => exact .inr rfl
    | some e =>
        cases e with
        | dir => exact .inl rfl
        | file bytes =>
            have hreach : t.reach p = .error .notDirectory :=
              reachFrom_notDirectory q p [] hq hne (hrooted q _ hat)
                ⟨bytes, hat⟩
            unfold FileStore.openAt read at h
            rw [hreach] at h
            cases h
  · have hreach : t.reach p = .ok .dir :=
      reach_eq_ok_iff.2 ⟨hrooted p _ hdir, hdir⟩
    unfold FileStore.openAt read at h
    rw [hreach] at h
    cases h

-- =========================================================== directories

/-- A tree in which some directories were made that were missing on the
way to a path. -/
structure Made (p : Path) (t u : FileTree) : Prop where
  rooted : u.Rooted
  same : ∀ q, u.at? q = t.at? q
    ∨ (q <+: p ∧ q ≠ p ∧ t.at? q = none ∧ u.at? q = some .dir)

namespace Made

theorem refl (h : t.Rooted) : Made p t t := ⟨h, fun _ => .inl rfl⟩

/-- Directories made behind others: one that the first half made is
there for the second. -/
theorem trans (h : Made p t u) (k : Made p u v) : Made p t v := by
  refine ⟨k.rooted, fun q => ?_⟩
  rcases k.same q with hk | ⟨hq, hne, hnone, hdir⟩
  · rw [hk]
    exact h.same q
  · rcases h.same q with hh | ⟨-, -, -, hdir'⟩
    · exact .inr ⟨hq, hne, hh ▸ hnone, hdir⟩
    · rw [hnone] at hdir'
      cases hdir'

/-- What stands elsewhere than on the way is left. -/
theorem at?_eq (h : Made p t u) (hq : q <+: p → q = p) :
    u.at? q = t.at? q := by
  rcases h.same q with hsame | ⟨hpre, hne, -⟩
  · exact hsame
  · exact absurd (hq hpre) hne

theorem at?_path (h : Made p t u) : u.at? p = t.at? p :=
  h.at?_eq fun _ => rfl

theorem at?_temporary (h : Made p t u) :
    u.at? p.temporary = t.at? p.temporary :=
  h.at?_eq fun hq => hq.eq_of_length p.length_temporary

/-- A path that was ready is so behind directories on its way. -/
theorem ready (h : Made p t u) (ht : t.Ready p) : u.Ready p := by
  refine ⟨h.rooted, fun q hq hne => ?_, h.at?_path ▸ ht.noDir⟩
  rcases h.same q with hsame | ⟨-, -, -, hdir⟩
  · rw [hsame]
    exact ht.clear q hq hne
  · exact .inl hdir

end Made

/-- A tree in which a file has taken the place of another, and its sibling
is gone. -/
def replaced (t : FileTree) (p : Path) (bytes : Bytes) : FileTree :=
  (t.erase p.temporary).put p (.file bytes)

section
variable {bytes : Bytes}

theorem at?_replaced_path (h : p ≠ []) :
    (t.replaced p bytes).at? p = some (.file bytes) :=
  at?_put_self h

/-- The sibling is gone, unless it is the file itself. -/
theorem at?_replaced_temporary (h : p ≠ []) (hne : p.temporary ≠ p) :
    (t.replaced p bytes).at? p.temporary = none := by
  unfold replaced
  rw [at?_put_of_ne hne]
  exact at?_erase_self (Path.temporary_ne_nil h)

/-- All other paths keep what stands there. -/
theorem at?_replaced_of_ne (hp : q ≠ p) (hq : q ≠ p.temporary) :
    (t.replaced p bytes).at? q = t.at? q := by
  unfold replaced
  rw [at?_put_of_ne hp, at?_erase_of_ne hq]

/-- The file can be replaced again. -/
theorem Ready.replaced (h : t.Ready p) (hway : t.Leads p)
    (hsibling : t.at? p.temporary ≠ some .dir) :
    (t.replaced p bytes).Ready p := by
  refine ⟨?_, fun q hq hne => ?_, ?_⟩
  · refine (h.rooted.erase hsibling).put (hway.erase hsibling) ?_
    by_cases hsame : p = p.temporary
    · rw [← hsame, at?_erase_self h.ne_nil]
      nofun
    · rw [at?_erase_of_ne hsame]
      exact h.noDir
  · rw [at?_replaced_of_ne hne (Path.ne_temporary hq hne)]
    exact h.clear q hq hne
  · rw [at?_replaced_path h.ne_nil]
    nofun

/-- A path is ready while the sibling is written. -/
theorem Ready.put_temporary (h : t.Ready p) (hway : t.Leads p)
    (hsibling : t.at? p.temporary ≠ some .dir) :
    (t.put p.temporary (.file bytes)).Ready p := by
  refine ⟨h.rooted.put ((leads_temporary_iff h.ne_nil).2 hway) hsibling,
    fun q hq hne => ?_, ?_⟩
  · rw [at?_put_of_ne (Path.ne_temporary hq hne)]
    exact h.clear q hq hne
  · by_cases hsame : p = p.temporary
    · rw [← hsame, at?_put_self h.ne_nil]
      nofun
    · rw [at?_put_of_ne hsame]
      exact h.noDir

theorem Ready.read_of_file (h : t.Ready p)
    (hat : t.at? p = some (.file bytes)) : t.read p = .ok bytes := by
  unfold read
  rw [h.reach_of_file hat]

end

end FileTree

-- =============================================================== effects

namespace Effect

open FileTree

variable {t u : FileTree} {p : Path} {bytes : Bytes}

/-- Effects that go well, and others behind them. -/
theorem perform_append_of_ok {es fs : List Effect}
    (h : perform t es = (u, none)) :
    perform t (es ++ fs) = perform u fs := by
  induction es generalizing t with
  | nil => cases h; rfl
  | cons e es ih =>
      obtain ⟨v, hv, hrest⟩ := perform_cons h
      rw [List.cons_append, perform, hv]
      exact ih hrest

theorem parentOk_of_leads (hp : p ≠ []) (h : t.Leads p) :
    parentOk t p = .ok () := by
  unfold parentOk
  rw [(leads_iff hp).1 h]

/-- A directory that is missing can be made in another one. -/
theorem makeDir_of_missing (h : t.Leads p) (hnone : t.at? p = none) :
    (makeDir p).apply t = .ok (t.put p .dir) := by
  have hp : p ≠ [] := ne_nil_of_at? (ne_dir_of_none hnone)
  simp only [apply, parentOk_of_leads hp h, hnone]

/-- A directory is made only where nothing stands. -/
theorem of_makeDir (h : (makeDir p).apply t = .ok u) :
    p ≠ [] ∧ t.Leads p ∧ t.at? p = none ∧ u = t.put p .dir := by
  simp only [apply] at h
  split at h
  · cases h
  · cases h
  · next hparent hnone =>
      have hp : p ≠ [] := ne_nil_of_at? (ne_dir_of_none hnone)
      cases h
      exact ⟨hp, leads_of_parentOk hp hparent, hnone, rfl⟩

/-- A file is created, empty, where its directory is there and no
directory in its place. -/
theorem create_of_leads (h : t.Leads p) (hdir : t.at? p ≠ some .dir) :
    (create p).apply t = .ok (t.put p (.file [])) := by
  have hp := ne_nil_of_at? hdir
  simp only [apply, parentOk_of_leads hp h]

/-- No file is made in the place of a directory. -/
theorem create_of_dir (hp : p ≠ []) (h : t.Leads p)
    (hdir : t.at? p = some .dir) :
    (create p).apply t = .error .isDirectory := by
  simp only [apply, parentOk_of_leads hp h, hdir]

/-- Bytes are written behind those that were. -/
theorem perform_appends (hp : p ≠ []) (h : t.Leads p) (bs : Bytes) :
    ∀ written : Bytes,
      perform (t.put p (.file written)) (bs.map (append p))
        = (t.put p (.file (written ++ bs)), none) := by
  induction bs with
  | nil => intro written; simp [perform]
  | cons b bs ih =>
      intro written
      have happend : (append p b).apply (t.put p (.file written))
          = .ok (t.put p (.file (written ++ [b]))) := by
        simp only [apply, reach_put_self h hp, put_put]
      rw [List.map_cons, perform, happend]
      simpa using ih (written ++ [b])

/-- The sibling takes the place of the file. -/
theorem rename_temporary (h : t.Leads p) (hdir : t.at? p ≠ some .dir)
    (hsibling : t.at? p.temporary ≠ some .dir) :
    (rename p.temporary p).apply (t.put p.temporary (.file bytes))
      = .ok (t.replaced p bytes) := by
  have hp := ne_nil_of_at? hdir
  have hq := Path.temporary_ne_nil hp
  have hleads : t.Leads p.temporary := (leads_temporary_iff hp).2 h
  have hreach := reach_put_self (e := .file bytes) hleads hq
  have hparent := parentOk_of_leads hp
    (h.put_of_ne_dir (e := .file bytes) hsibling)
  by_cases hsame : p.temporary = p
  · have hat := at?_put_self (t := t) (e := .file bytes) hp
    rw [hsame] at hreach hparent ⊢
    simp only [apply, hreach, hparent, hat, if_true, replaced, hsame,
      put_erase]
  · have hat := at?_put_of_ne (t := t) (e := .file bytes) (Ne.symm hsame)
    simp only [apply, hreach, hparent, hat, erase_put, if_neg hsame, replaced]
    cases hplace : t.at? p with
    | none => rfl
    | some d =>
        cases d with
        | dir => exact absurd hplace hdir
        | file old => rfl

-- =========================================================== directories

/-- Making directories on the way to a path leaves all else. -/
theorem made_of_perform {ds : List Path} : ∀ {t : FileTree},
    t.Rooted → (∀ d ∈ ds, d <+: p ∧ d ≠ p) →
    perform t (ds.map makeDir) = (u, none) → Made p t u := by
  induction ds with
  | nil =>
      intro t hrooted _ h
      cases h
      exact .refl hrooted
  | cons d ds ih =>
      intro t hrooted hds h
      obtain ⟨v, hv, hrest⟩ := perform_cons h
      obtain ⟨hd, hleads, hnone, rfl⟩ := of_makeDir hv
      have hstep : Made p t (t.put d .dir) := by
        refine ⟨hrooted.put hleads (ne_dir_of_none hnone), fun q => ?_⟩
        by_cases hq : q = d
        · subst hq
          obtain ⟨hpre, hne⟩ := hds q List.mem_cons_self
          exact .inr ⟨hpre, hne, hnone, at?_put_self hd⟩
        · exact .inl (at?_put_of_ne hq)
      exact hstep.trans
        (ih hstep.rooted (fun x hx => hds x (List.mem_cons_of_mem _ hx))
          hrest)

theorem take_ne_take {j k : Nat} (hj : j < k) (hk : k ≤ p.length) :
    p.take j ≠ p.take k := by
  intro heq
  have hlen := congrArg List.length heq
  rw [List.length_take, List.length_take] at hlen
  omega

/-- From a directory on the way on, those that are missing can be made one
after the other. -/
theorem perform_makeDirs (t₀ : FileTree) (hclear : t₀.Clear p) (n : Nat) :
    ∀ (k : Nat) (t : FileTree), k + n < p.length → t.Rooted →
    (∀ j ≤ k, t.at? (p.take j) = some .dir) →
    (∀ j, k < j → j < p.length → t.at? (p.take j) = t₀.at? (p.take j)) →
    ∃ u, perform t ((((List.range' (k + 1) n).map p.take).filter
          fun d => t₀.at? d ≠ some .dir).map makeDir) = (u, none)
      ∧ ∀ j ≤ k + n, u.at? (p.take j) = some .dir := by
  induction n with
  | zero =>
      intro k t _ _ hup _
      exact ⟨t, rfl, hup⟩
  | succ n ih =>
      intro k t hk hrooted hup hsame
      have hpre : p.take (k + 1) <+: p := List.take_prefix _ _
      have hne : p.take (k + 1) ≠ p := by
        have := take_ne_take (p := p) (j := k + 1) (by omega) (Nat.le_refl _)
        rwa [List.take_length] at this
      have hhere := hsame (k + 1) (by omega) (by omega)
      rw [List.range'_succ, List.map_cons]
      rcases hclear _ hpre hne with hdir | hnone
      · -- already there
        rw [List.filter_cons_of_neg (by simpa using hdir)]
        have hup' : ∀ j ≤ k + 1, t.at? (p.take j) = some .dir := by
          intro j hj
          rcases Nat.le_succ_iff.1 hj with hj | rfl
          · exact hup j hj
          · rw [hhere, hdir]
        obtain ⟨u, hu, hall⟩ := ih (k + 1) t (by omega) hrooted hup'
          fun j hj hlen => hsame j (by omega) hlen
        exact ⟨u, hu, fun j hj => hall j (by omega)⟩
      · -- made now, in the directory before it
        rw [List.filter_cons_of_pos (by simp [hnone]), List.map_cons]
        have hleads : t.Leads (p.take (k + 1)) := by
          refine leads_of_take fun j hj => ?_
          rw [List.length_take] at hj
          rw [List.take_take, Nat.min_eq_left (by omega)]
          exact hup j (by omega)
        have hmissing : t.at? (p.take (k + 1)) = none := by rw [hhere, hnone]
        rw [perform, makeDir_of_missing hleads hmissing]
        have hput := hrooted.put (e := .dir) hleads
          (ne_dir_of_none hmissing)
        have hup' : ∀ j ≤ k + 1,
            (t.put (p.take (k + 1)) .dir).at? (p.take j) = some .dir := by
          intro j hj
          rcases Nat.le_succ_iff.1 hj with hj | rfl
          · rw [at?_put_of_ne (take_ne_take (by omega) (by omega))]
            exact hup j hj
          · refine at?_put_self ?_
            exact ne_nil_of_at? (ne_dir_of_none hmissing)
        have hsame' : ∀ j, k + 1 < j → j < p.length →
            (t.put (p.take (k + 1)) .dir).at? (p.take j)
              = t₀.at? (p.take j) := by
          intro j hj hlen
          rw [at?_put_of_ne (take_ne_take hj (by omega)).symm]
          exact hsame j (by omega) hlen
        obtain ⟨u, hu, hall⟩ := ih (k + 1) _ (by omega) hput hup' hsame'
        exact ⟨u, hu, fun j hj => hall j (by omega)⟩

end Effect

-- ================================================================ stages

namespace FileStore

open Effect FileTree

variable {t : FileTree} {p : Path} {items : Items}

/-- The directories on the way to a path that are to be made. -/
def missing (t : FileTree) (p : Path) : List Path :=
  (ancestors p).filter fun d => t.at? d ≠ some .dir

/-- The plan of a write, in its three parts: directories, the sibling
byte by byte, and its new name. -/
theorem plan_eq (t : FileTree) (p : Path) (items : Items) :
    plan t p items = (missing t p).map makeDir
      ++ create p.temporary :: items.toBytes.map (append p.temporary)
      ++ [rename p.temporary p] := rfl

/-- A write that is stopped while the sibling is written. -/
theorem take_plan {k : Nat} (hk : k ≤ items.toBytes.length) :
    (plan t p items).take ((missing t p).length + (k + 1))
      = (missing t p).map makeDir ++ create p.temporary
        :: (items.toBytes.take k).map (append p.temporary) := by
  rw [plan_eq, List.take_append_of_le_length (by simp; omega),
    List.take_append]
  simp [List.take_of_length_le, List.map_take]

/-- Ancestors are on the way, and before its end. -/
theorem mem_ancestors {d : Path} (h : d ∈ ancestors p) :
    d <+: p ∧ d ≠ p := by
  obtain ⟨k, hk, rfl⟩ := List.mem_map.1 h
  have hlt := List.mem_range.1 (List.mem_of_mem_drop hk)
  refine ⟨List.take_prefix _ _, fun heq => ?_⟩
  have hlen := congrArg List.length heq
  rw [List.length_take] at hlen
  omega

theorem mem_missing {d : Path} (h : d ∈ missing t p) :
    d <+: p ∧ d ≠ p :=
  mem_ancestors (List.mem_filter.1 h).1

/-- Nothing is missing on a way that leads somewhere. -/
theorem missing_of_leads (h : t.Leads p) : missing t p = [] := by
  refine List.filter_eq_nil_iff.2 fun d hd => ?_
  obtain ⟨hpre, hne⟩ := mem_ancestors hd
  simp [h d hpre hne]

/-- All directories that are missing can be made. -/
theorem perform_missing (h : t.Ready p) :
    ∃ u, perform t ((missing t p).map makeDir) = (u, none)
      ∧ Made p t u ∧ u.Leads p := by
  obtain ⟨n, hn⟩ : ∃ n, p.length = n + 1 := by
    have := List.length_pos_iff.2 h.ne_nil
    exact ⟨p.length - 1, by omega⟩
  have hways : (List.range p.length).drop 1 = List.range' 1 n := by
    rw [hn, List.range_eq_range', List.range'_succ]
    rfl
  obtain ⟨u, hu, hall⟩ := perform_makeDirs t h.clear n 0 t (by omega)
    h.rooted (by simp [at?]) fun _ _ _ => rfl
  have hperform : perform t ((missing t p).map makeDir) = (u, none) := by
    unfold missing ancestors
    rw [hways]
    exact hu
  refine ⟨u, hperform,
    made_of_perform h.rooted (fun d hd => mem_missing hd) hperform, ?_⟩
  exact leads_of_take fun j hj => hall j (by omega)

/-- What a write has led to: directories have been made, or the sibling is
being written, or it has taken the place of the file. -/
inductive Stage (p : Path) (bytes : Bytes) (t : FileTree) :
    FileTree → Prop where
  | preparing {u : FileTree} (h : Made p t u) : Stage p bytes t u
  | writing {u : FileTree} {written : Bytes} (h : Made p t u)
      (hway : u.Leads p) (hpre : written <+: bytes) :
      Stage p bytes t (u.put p.temporary (.file written))
  | done {u : FileTree} (h : Made p t u) (hway : u.Leads p) :
      Stage p bytes t (u.replaced p bytes)

/-- The sibling while it is written. -/
theorem perform_written (items : Items) (h : t.Ready p)
    (hsibling : t.at? p.temporary ≠ some .dir) (k : Nat) :
    ∃ u, Made p t u ∧ u.Leads p
      ∧ perform t ((missing t p).map makeDir ++ create p.temporary
          :: (items.toBytes.take k).map (append p.temporary))
        = (u.put p.temporary (.file (items.toBytes.take k)), none) := by
  obtain ⟨u, hu, hmade, hway⟩ := perform_missing h
  refine ⟨u, hmade, hway, ?_⟩
  have hq := Path.temporary_ne_nil h.ne_nil
  have hleads : u.Leads p.temporary :=
    (leads_temporary_iff h.ne_nil).2 hway
  rw [← hmade.at?_temporary] at hsibling
  rw [perform_append_of_ok hu, perform, create_of_leads hleads hsibling]
  exact perform_appends hq hleads _ []

/-- The whole write. -/
theorem perform_plan (items : Items) (h : t.Ready p)
    (hsibling : t.at? p.temporary ≠ some .dir) :
    ∃ u, Made p t u ∧ u.Leads p
      ∧ perform t (plan t p items)
        = (u.replaced p items.toBytes, none) := by
  obtain ⟨u, hmade, hway, hu⟩ := perform_written items h hsibling
    items.toBytes.length
  rw [List.take_length] at hu
  refine ⟨u, hmade, hway, ?_⟩
  rw [← hmade.at?_temporary] at hsibling
  rw [plan_eq, perform_append_of_ok hu, perform,
    rename_temporary hway (hmade.ready h).noDir hsibling]
  rfl

/-- A write that is stopped after any number of effects is in one of its
stages. -/
theorem stage_of_take (items : Items) (h : t.Ready p)
    (hsibling : t.at? p.temporary ≠ some .dir) (n : Nat) :
    Stage p items.toBytes t (perform t ((plan t p items).take n)).1 := by
  by_cases hn : n ≤ (missing t p).length
  · -- on the way
    have htake : (plan t p items).take n
        = ((missing t p).take n).map makeDir := by
      rw [plan_eq, List.append_assoc,
        List.take_append_of_le_length (by simpa using hn), List.map_take]
    obtain ⟨v, hv, -⟩ := perform_missing h
    rw [← List.take_append_drop n (missing t p), List.map_append] at hv
    obtain ⟨u, hu, -⟩ := perform_append hv
    rw [htake, hu]
    refine .preparing (made_of_perform h.rooted (fun d hd => ?_) hu)
    exact mem_missing (List.mem_of_mem_take hd)
  obtain ⟨k, rfl⟩ : ∃ k, n = (missing t p).length + (k + 1) :=
    ⟨n - (missing t p).length - 1, by omega⟩
  by_cases hk : k ≤ items.toBytes.length
  · -- writing the sibling
    obtain ⟨u, hmade, hway, hu⟩ := perform_written items h hsibling k
    rw [take_plan hk, hu]
    exact .writing hmade hway (List.take_prefix _ _)
  · -- all is done
    have htake : (plan t p items).take ((missing t p).length + (k + 1))
        = plan t p items := by
      refine List.take_of_length_le ?_
      rw [plan_eq]
      simp
      omega
    obtain ⟨u, hmade, hway, hu⟩ := perform_plan items h hsibling
    rw [htake, hu]
    exact .done hmade hway

/-- A directory in the place of the sibling stops a write before anything
has happened. -/
theorem perform_blocked (h : t.Ready p)
    (hsibling : t.at? p.temporary = some .dir) :
    perform t (plan t p items) = (t, some .isDirectory)
      ∧ ∀ n, (perform t ((plan t p items).take n)).1 = t := by
  have hq := Path.temporary_ne_nil h.ne_nil
  have hleads : t.Leads p.temporary := h.rooted _ _ hsibling
  have hway : t.Leads p := (leads_temporary_iff h.ne_nil).1 hleads
  have hplan : plan t p items
      = create p.temporary :: (items.toBytes.map (append p.temporary)
        ++ [rename p.temporary p]) := by
    rw [plan_eq, missing_of_leads hway]
    rfl
  have hcreate := create_of_dir hq hleads hsibling
  rw [hplan]
  refine ⟨by rw [perform, hcreate], fun n => ?_⟩
  cases n with
  | zero => rfl
  | succ n => rw [List.take_succ_cons, perform, hcreate]

end FileStore
end SecurityConsole.Storage
