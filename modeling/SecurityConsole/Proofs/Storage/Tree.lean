/-
What the effects on a tree leave to be found.

A path leads somewhere if every path on the way to it is a directory
(`Leads`), and then what stands there is found (`reach_eq_ok_iff`).
An effect changes what stands at its own path, and no way to that path
goes through it; so the file that was created, written or renamed is
found where it should be (`reach_of_create`, `reach_of_append`,
`reach_of_rename`), whatever else the tree holds.
-/
import SecurityConsole.Storage.FileTree

namespace SecurityConsole.Storage

open Text (Bytes)

-- ============================================================== entries

namespace FileTree

variable {t : FileTree} {p q : Path} {e : Entry}

/-- What is filtered out at one path is still found at all others. -/
theorem lookup_filter_of_ne (h : q ≠ p) (entries : List (Path × Entry)) :
    (entries.filter fun x => x.1 ≠ p).lookup q = entries.lookup q := by
  induction entries with
  | nil => rfl
  | cons x rest ih =>
      obtain ⟨r, d⟩ := x
      by_cases hr : r = p
      · have hq : (q == p) = false := by simpa using h
        subst hr
        simpa [List.lookup_cons, hq] using ih
      · rw [List.filter_cons_of_pos (by simpa using hr),
          List.lookup_cons, List.lookup_cons, ih]

theorem at?_put_self (h : p ≠ []) : (t.put p e).at? p = some e := by
  simp [at?, put, h]

/-- Putting an entry leaves what stands at other paths. -/
theorem at?_put_of_ne (h : q ≠ p) : (t.put p e).at? q = t.at? q := by
  have hq : (q == p) = false := by simpa using h
  unfold at? put
  rw [List.lookup_cons, hq, lookup_filter_of_ne h]

theorem at?_erase_of_ne (h : q ≠ p) : (t.erase p).at? q = t.at? q := by
  unfold at? erase
  rw [lookup_filter_of_ne h]

-- ================================================================ ways

/-- Every path on the way to a path is a directory. -/
def Leads (t : FileTree) (p : Path) : Prop :=
  ∀ q, q <+: p → q ≠ p → t.at? q = some .dir

/-- What holds before the end of a way with a first name holds where the
way begins, and before the end of the rest of it. -/
theorem forall_before_cons_iff {P : Path → Prop} {name : String}
    {rest : Path} :
    (∀ q, q <+: name :: rest → q ≠ name :: rest → P q)
      ↔ P [] ∧ ∀ q, q <+: rest → q ≠ rest → P (name :: q) := by
  constructor
  · intro h
    refine ⟨h [] List.nil_prefix (List.cons_ne_nil _ _).symm,
      fun q hq hne => ?_⟩
    exact h (name :: q) ((List.prefix_cons_inj name).2 hq)
      fun heq => hne (List.cons.inj heq).2
  · rintro ⟨hhere, hrest⟩ q hq hne
    cases q with
    | nil => exact hhere
    | cons m q =>
        obtain ⟨rfl, hrq⟩ := List.cons_prefix_cons.1 hq
        exact hrest q hrq fun heq => hne (heq ▸ rfl)

/-- Going along names reaches an entry just if all that is passed are
directories, and the entry stands at the end. -/
theorem reachFrom_eq_ok_iff (p : Path) : ∀ reached : Path,
    t.reachFrom reached p = .ok e
      ↔ (∀ q, q <+: p → q ≠ p → t.at? (reached ++ q) = some .dir)
        ∧ t.at? (reached ++ p) = some e := by
  induction p with
  | nil =>
      intro reached
      unfold reachFrom
      rw [List.append_nil]
      cases h : t.at? reached with
      | none => simp
      | some d => simp
  | cons name rest ih =>
      intro reached
      have hnext := ih (reached ++ [name])
      simp only [List.append_assoc, List.singleton_append] at hnext
      rw [forall_before_cons_iff (P := fun q => t.at? (reached ++ q) = _),
        List.append_nil]
      unfold reachFrom
      cases h : t.at? reached with
      | none => simp
      | some d =>
          cases d with
          | file bytes => simp
          | dir => simpa using hnext

theorem reach_eq_ok_iff :
    t.reach p = .ok e ↔ t.Leads p ∧ t.at? p = some e :=
  reachFrom_eq_ok_iff p []

/-- The way to a path goes through the directory that holds it. -/
theorem leads_iff (h : p ≠ []) :
    t.Leads p ↔ t.reach p.parent = .ok .dir := by
  obtain ⟨q, name, rfl⟩ : ∃ q name, p = q ++ [name] :=
    ⟨p.dropLast, p.getLast h, (List.dropLast_concat_getLast h).symm⟩
  rw [reach_eq_ok_iff]
  show _ ↔ t.Leads ((q ++ [name]).dropLast)
    ∧ t.at? ((q ++ [name]).dropLast) = _
  rw [List.dropLast_concat]
  constructor
  · intro hp
    have hshort : ∀ r, r <+: q → r ≠ q ++ [name] := by
      intro r hr heq
      have := hr.length_le
      rw [heq, List.length_append, List.length_singleton] at this
      omega
    exact ⟨fun r hr _ => hp r (hr.trans (List.prefix_append q _))
        (hshort r hr),
      hp q (List.prefix_append q _) (hshort q (List.prefix_refl q))⟩
  · rintro ⟨hway, hdir⟩ r hr hne
    by_cases hq : r = q
    · rw [hq]
      exact hdir
    · rcases List.prefix_concat_iff.1 hr with heq | hr
      · exact absurd heq hne
      · exact hway r hr hq

/-- An entry that stands on no way to a path is no matter for it. -/
theorem Leads.put (h : t.Leads p) : (t.put p e).Leads p := by
  intro q hq hne
  rw [at?_put_of_ne hne]
  exact h q hq hne

/-- What was put where a way leads is found there. -/
theorem reach_put_self (h : t.Leads p) (hp : p ≠ []) :
    (t.put p e).reach p = .ok e :=
  reach_eq_ok_iff.2 ⟨h.put, at?_put_self hp⟩

end FileTree

-- ============================================================== effects

namespace Effect

open FileTree

variable {t t' : FileTree} {p : Path}

/-- A directory that is found as the parent is on a way of
directories. -/
theorem leads_of_parentOk (hp : p ≠ []) (h : parentOk t p = .ok ()) :
    t.Leads p := by
  refine (leads_iff hp).2 ?_
  unfold parentOk at h
  split at h
  · assumption
  · cases h
  · cases h

/-- The root is no file. -/
theorem ne_nil_of_at? (h : t.at? p ≠ some .dir) : p ≠ [] := by
  rintro rfl
  exact h rfl

/-- A file that was created is there, and empty. -/
theorem reach_of_create (h : (create p).apply t = .ok t') :
    t'.reach p = .ok (.file []) := by
  unfold Effect.apply at h
  dsimp only at h
  split at h
  · cases h
  · cases h
  · next hparent hat =>
      cases h
      have hp : p ≠ [] := ne_nil_of_at? hat
      exact reach_put_self (leads_of_parentOk hp hparent) hp

/-- A byte that was written stands behind the others. -/
theorem reach_of_append {b : UInt8} {bytes : Bytes}
    (h : (append p b).apply t = .ok t')
    (hfile : t.reach p = .ok (.file bytes)) :
    t'.reach p = .ok (.file (bytes ++ [b])) := by
  obtain ⟨hleads, hat⟩ := reach_eq_ok_iff.1 hfile
  have hp : p ≠ [] := ne_nil_of_at? (t := t) (by rw [hat]; nofun)
  unfold Effect.apply at h
  dsimp only at h
  rw [hfile] at h
  cases h
  exact reach_put_self hleads hp

/-- A file that was renamed is found under its new path. The old path
stands on no way to the new one, since it is a file. -/
theorem reach_of_rename {source target : Path} {bytes : Bytes}
    (h : (rename source target).apply t = .ok t')
    (hfile : t.reach source = .ok (.file bytes)) :
    t'.reach target = .ok (.file bytes) := by
  unfold Effect.apply at h
  dsimp only at h
  rw [hfile] at h
  cases hparent : parentOk t target with
  | error f =>
      rw [hparent] at h
      cases h
  | ok _ =>
      -- a directory in its place would have refused the renaming
      have hat : t.at? target ≠ some .dir := by
        intro hdir
        rw [hparent, hdir] at h
        cases h
      have hp := ne_nil_of_at? hat
      have hleads := leads_of_parentOk hp hparent
      have h' : (if source = target then .ok t
          else .ok ((t.erase source).put target (.file bytes)))
          = (.ok t' : Except Fault FileTree) := by
        rw [hparent] at h
        cases hd : t.at? target with
        | none =>
            rw [hd] at h
            exact h
        | some d =>
            rw [hd] at h
            cases d with
            | dir => exact absurd hd hat
            | file old => exact h
      by_cases hsame : source = target
      · rw [if_pos hsame] at h'
        cases h'
        rw [← hsame]
        exact hfile
      · rw [if_neg hsame] at h'
        cases h'
        refine reach_put_self ?_ hp
        intro q hq hne
        have hdir := hleads q hq hne
        -- what leads to the new path is a directory, the old path is
        -- not
        have hsource : q ≠ source := by
          rintro rfl
          rw [(reach_eq_ok_iff.1 hfile).2] at hdir
          cases hdir
        rw [at?_erase_of_ne hsource]
        exact hdir

-- ===================================================== several effects

/-- Effects that all went well, cut in two. -/
theorem perform_append {es fs : List Effect}
    (h : perform t (es ++ fs) = (t', none)) :
    ∃ u, perform t es = (u, none) ∧ perform u fs = (t', none) := by
  induction es generalizing t with
  | nil => exact ⟨t, rfl, h⟩
  | cons e es ih =>
      rw [List.cons_append, perform] at h
      rw [perform]
      cases he : e.apply t with
      | ok u =>
          rw [he] at h
          exact ih h
      | error f =>
          rw [he] at h
          cases h

/-- Effects that all go through do so one by one. -/
theorem perform_cons {e : Effect} {es : List Effect}
    (h : perform t (e :: es) = (t', none)) :
    ∃ u, e.apply t = .ok u ∧ perform u es = (t', none) := by
  rw [perform] at h
  cases he : e.apply t with
  | ok u =>
      rw [he] at h
      exact ⟨u, rfl, h⟩
  | error f =>
      rw [he] at h
      cases h

/-- Bytes that were all written stand behind the others, in order. -/
theorem reach_of_appends (bs : Bytes) : ∀ {t : FileTree} {bytes : Bytes},
    perform t (bs.map (append p)) = (t', none) →
    t.reach p = .ok (.file bytes) →
    t'.reach p = .ok (.file (bytes ++ bs)) := by
  induction bs with
  | nil =>
      intro t bytes h hfile
      cases h
      rw [List.append_nil]
      exact hfile
  | cons b bs ih =>
      intro t bytes h hfile
      obtain ⟨u, hb, hrest⟩ := perform_cons h
      have := ih hrest (reach_of_append hb hfile)
      simpa using this

end Effect
end SecurityConsole.Storage
