/-
Tables in which no two routes compete for a path.

A location belongs to the first route that matches it, so the order of a
table counts wherever two of its routes match the same path. Whether they
ever do can be read off their patterns: they do not if the patterns differ
in length, or at a position where both are fixed; and in all other cases
there are segments that agree with both (`Pattern.apart_iff`).

If the patterns of a table are apart from each other, at most one of its
routes matches a path (`Table.length_takers_le`); then the order of the
routes makes no difference (`Table.resolvePath_perm`), and every route gets
the paths that its pattern is filled in to (`Table.resolve_fillText`). The
table of the console is such a table
(`consoleTable_is_unambiguous`).
-/
import SecurityConsole.Proofs.Route.Matching
import Mathlib.Data.List.Basic

namespace SecurityConsole.Route

-- ======================================================= patterns apart

namespace Pattern

/-- Whether two patterns differ in length, or at a position where both are
fixed. -/
def apart : Pattern → Pattern → Bool
  | [], [] => false
  | [], _ :: _ => true
  | _ :: _, [] => true
  | .fixed s :: p, .fixed t :: q => decide (s ≠ t) || apart p q
  | .fixed _ :: p, .param _ :: q => apart p q
  | .param _ :: p, .fixed _ :: q => apart p q
  | .param _ :: p, .param _ :: q => apart p q

/-- No segments agree with both of two patterns that are apart. -/
theorem not_agrees_of_apart : ∀ {p q : Pattern} {segs : List String},
    p.apart q = true → p.Agrees segs → ¬ q.Agrees segs := by
  intro p
  induction p with
  | nil =>
      intro q segs hapart hp hq
      cases q with
      | nil => cases hapart
      | cons y q =>
          cases segs with
          | nil => exact not_agrees_cons hq
          | cons s segs => exact not_agrees_nil hp
  | cons x p ih =>
      intro q segs hapart hp hq
      cases segs with
      | nil => exact not_agrees_cons hp
      | cons s segs =>
          cases q with
          | nil => exact not_agrees_nil hq
          | cons y q =>
              cases x with
              | param name =>
                  have hp := agrees_param_iff.1 hp
                  cases y with
                  | param _ => exact ih hapart hp (agrees_param_iff.1 hq)
                  | fixed _ => exact ih hapart hp (agrees_fixed_iff.1 hq).2
              | fixed text =>
                  obtain ⟨htext, hp⟩ := agrees_fixed_iff.1 hp
                  cases y with
                  | param _ => exact ih hapart hp (agrees_param_iff.1 hq)
                  | fixed text' =>
                      obtain ⟨htext', hq⟩ := agrees_fixed_iff.1 hq
                      have hsame : text = text' := htext.trans htext'.symm
                      rw [apart, decide_eq_false (not_not_intro hsame),
                        Bool.false_or] at hapart
                      exact ih hapart hp hq

/-- Some segments agree with both of two patterns that are not apart: the
fixed ones of either, and any text where both have a parameter. -/
theorem exists_agrees_of_not_apart : ∀ {p q : Pattern},
    p.apart q = false → ∃ segs, p.Agrees segs ∧ q.Agrees segs := by
  intro p
  induction p with
  | nil =>
      intro q h
      cases q with
      | nil => exact ⟨[], agrees_nil, agrees_nil⟩
      | cons y q => cases h
  | cons x p ih =>
      intro q h
      cases q with
      | nil => cases h
      | cons y q =>
          cases x with
          | param name =>
              obtain ⟨segs, hp, hq⟩ := ih (q := q) (by cases y <;> exact h)
              cases y with
              | param _ =>
                  exact ⟨"" :: segs, agrees_param_iff.2 hp,
                    agrees_param_iff.2 hq⟩
              | fixed text =>
                  exact ⟨text :: segs, agrees_param_iff.2 hp,
                    agrees_fixed_iff.2 ⟨rfl, hq⟩⟩
          | fixed text =>
              cases y with
              | param _ =>
                  obtain ⟨segs, hp, hq⟩ := ih (q := q) h
                  exact ⟨text :: segs, agrees_fixed_iff.2 ⟨rfl, hp⟩,
                    agrees_param_iff.2 hq⟩
              | fixed text' =>
                  obtain ⟨hsame, hrest⟩ := Bool.or_eq_false_iff.1 h
                  obtain rfl : text = text' := by simpa using hsame
                  obtain ⟨segs, hp, hq⟩ := ih hrest
                  exact ⟨text :: segs, agrees_fixed_iff.2 ⟨rfl, hp⟩,
                    agrees_fixed_iff.2 ⟨rfl, hq⟩⟩

/-- Two patterns are apart just if no segments agree with both. -/
theorem apart_iff {p q : Pattern} :
    p.apart q = true ↔ ∀ segs, p.Agrees segs → ¬ q.Agrees segs := by
  refine ⟨fun h _ => not_agrees_of_apart h, fun h => ?_⟩
  by_contra hne
  obtain ⟨segs, hp, hq⟩ :=
    exists_agrees_of_not_apart (Bool.eq_false_iff.2 hne)
  exact h segs hp hq

end Pattern

-- ============================================================= the takers

/-- Whether a route matches a path. -/
def Definition.takes (path : String) (r : Definition) : Bool :=
  (r.match? path).isSome

/-- Whether no path is matched by two routes. -/
def Definition.Apart (r r' : Definition) : Prop :=
  (Pattern.ofString r.pattern).apart (Pattern.ofString r'.pattern) = true

instance (r r' : Definition) : Decidable (r.Apart r') :=
  inferInstanceAs (Decidable (_ = true))

section
variable {r r' : Definition} {path : String} {t : Table}

/-- A route takes a path only if its pattern agrees with it. -/
theorem Definition.agrees_of_takes (h : r.takes path = true) :
    (Pattern.ofString r.pattern).Agrees (segments path) := by
  obtain ⟨params, hparams⟩ := Option.isSome_iff_exists.1 h
  exact Pattern.agrees_of_matchFrom? hparams

/-- Of two routes that are apart only one takes a path. -/
theorem Definition.Apart.not_takes (h : r.Apart r')
    (hr : r.takes path = true) : r'.takes path = false :=
  Bool.eq_false_iff.2 fun hr' =>
    Pattern.apart_iff.1 h _ (agrees_of_takes hr) (agrees_of_takes hr')

namespace Table

/-- The routes of a table that match a path. -/
def takers (t : Table) (path : String) : Table := t.filter (·.takes path)

/-- Routes that do not match a path have no say in where it leads. -/
theorem resolvePath_takers (t : Table) (path : String) :
    (t.takers path).resolvePath path = t.resolvePath path := by
  induction t with
  | nil => rfl
  | cons r rest ih =>
      unfold takers Definition.takes at ih ⊢
      cases hmatch : r.match? path with
      | none =>
          rw [List.filter_cons_of_neg (by simp [hmatch]), ih, resolvePath,
            hmatch]
      | some params =>
          rw [List.filter_cons_of_pos (by simp [hmatch]), resolvePath,
            resolvePath, hmatch]

/-- At most one route of a table matches a path, if its routes are apart
from each other. -/
theorem length_takers_le (h : t.Pairwise Definition.Apart)
    (path : String) : (t.takers path).length ≤ 1 := by
  have hapart : (t.takers path).Pairwise Definition.Apart := h.filter _
  have htakes : ∀ r ∈ t.takers path, r.takes path = true :=
    fun _ hr => (List.mem_filter.1 hr).2
  match htakers : t.takers path with
  | [] => exact Nat.zero_le 1
  | [_] => exact Nat.le_refl 1
  | r :: r' :: rest =>
      rw [htakers] at hapart htakes
      have hpair := (List.pairwise_cons.1 hapart).1 r' List.mem_cons_self
      have hnot := hpair.not_takes (htakes r List.mem_cons_self)
      rw [htakes r' (List.mem_cons_of_mem r List.mem_cons_self)] at hnot
      cases hnot

/-- Where a path leads does not hang on the order of the routes, if at most
one of them matches it. -/
theorem resolvePath_perm {t' : Table} (hperm : t'.Perm t)
    (hone : (t.takers path).length ≤ 1) :
    t'.resolvePath path = t.resolvePath path := by
  have htakers : (t'.takers path).Perm (t.takers path) := hperm.filter _
  have hsame : t'.takers path = t.takers path := by
    match hlist : t.takers path with
    | [] => exact List.perm_nil.1 (hlist ▸ htakers)
    | [r] => exact List.perm_singleton.1 (hlist ▸ htakers)
    | r :: r' :: rest =>
        rw [hlist, List.length_cons, List.length_cons] at hone
        omega
  rw [← resolvePath_takers t', ← resolvePath_takers t, hsame]

/-- A path that the pattern of a route was filled in to belongs to that
route, if the routes are apart from each other. -/
theorem resolve_fillText {values : String → String}
    (h : t.Pairwise Definition.Apart) (hr : r ∈ t)
    (hnodup : (Pattern.ofString r.pattern).names.Nodup)
    (hplain : (Pattern.ofString r.pattern).IsUnmarked)
    (hvalues : ∀ name ∈ (Pattern.ofString r.pattern).names,
      IsValue (values name)) :
    t.resolve (fillText values r.pattern)
      = r.resolution (fillText values r.pattern)
          ((Pattern.ofString r.pattern).names.map
            fun name => (name, values name)) := by
  have hmatch := Definition.match?_fillText hnodup hvalues
  obtain ⟨earlier, later, rfl⟩ := List.append_of_mem hr
  have hearlier : ∀ e ∈ earlier,
      e.match? (fillText values r.pattern) = none := by
    intro e he
    have hpair := (List.pairwise_append.1 h).2.2 e he r List.mem_cons_self
    by_contra hsome
    have hnot := hpair.not_takes (Option.isSome_iff_ne_none.2 hsome)
    rw [Definition.takes, hmatch] at hnot
    cases hnot
  unfold resolve
  rw [pathOf_fillText hvalues hplain]
  exact resolvePath_of_first later hearlier hmatch

end Table

end

-- ================================================== the console's table

/-- The patterns of the console, pair by pair. -/
theorem consoleTable_apart : consoleTable.Pairwise Definition.Apart := by
  decide +kernel

theorem consoleTable_names : ∀ r ∈ consoleTable,
    (Pattern.ofString r.pattern).names.Nodup := by
  decide +kernel

theorem consoleTable_unmarked : ∀ r ∈ consoleTable,
    (Pattern.ofString r.pattern).IsUnmarked := by
  decide +kernel

/-- The table of the console is unambiguous. At most one of its routes
matches the path of a location, so that its order makes no difference to
where a location leads. And each route is reached: the paths that its
pattern is filled in to lead to it, or where it redirects to, and no other
route matches them. -/
theorem consoleTable_is_unambiguous :
    (∀ location,
        (consoleTable.filter fun r =>
          (r.match? (pathOf location)).isSome).length ≤ 1)
      ∧ (∀ t : Table, t.Perm consoleTable →
          ∀ location, t.resolve location = consoleTable.resolve location)
      ∧ ∀ r ∈ consoleTable, ∀ values : String → String,
          let names := (Pattern.ofString r.pattern).names
          let path := fillText values r.pattern
          (∀ name ∈ names, IsValue (values name)) →
            (r.redirect = none →
                consoleTable.resolve path
                  = .found ⟨r, path,
                      names.map fun name => (name, values name)⟩)
              ∧ (∀ target, r.redirect = some target →
                  consoleTable.resolve path = .redirect target)
              ∧ ∀ r' ∈ consoleTable,
                  (r'.match? (pathOf path)).isSome = true → r' = r := by
  have hone := Table.length_takers_le consoleTable_apart
  refine ⟨fun location => hone _,
    fun t hperm location => Table.resolvePath_perm hperm (hone _), ?_⟩
  intro r hr values names path hvalues
  have hnodup := consoleTable_names r hr
  have hplain := consoleTable_unmarked r hr
  have hresolve := Table.resolve_fillText consoleTable_apart hr hnodup
    hplain hvalues
  refine ⟨fun hpage => ?_, fun target htarget => ?_, fun r' hr' htakes => ?_⟩
  · rw [hresolve, Definition.resolution, hpage]
  · rw [hresolve, Definition.resolution, htarget]
  · -- both match the path, and only one route does
    have hown : r.takes (pathOf path) = true := by
      rw [pathOf_fillText hvalues hplain, Definition.takes,
        Definition.match?_fillText hnodup hvalues]
      rfl
    have hmem : r ∈ consoleTable.takers (pathOf path) :=
      List.mem_filter.2 ⟨hr, hown⟩
    have hmem' : r' ∈ consoleTable.takers (pathOf path) :=
      List.mem_filter.2 ⟨hr', htakes⟩
    obtain ⟨only, honly⟩ := List.length_eq_one_iff.1
      (Nat.le_antisymm (hone _) (List.length_pos_of_mem hmem))
    rw [honly, List.mem_singleton] at hmem hmem'
    rw [hmem, hmem']

/-- The page of a host is found under an id with an escaped slash, and just
so if the table is searched from its end, where the page of all hosts comes
behind it. -/
theorem host_found_in_any_order :
    let r := page "HostDetail" "/hosts/:hostId" "Host Detail"
    let found := Resolution.found
      ⟨r, "/hosts/h%2F1", [("hostId", "h%2F1")]⟩
    r ∈ consoleTable
      ∧ IsValue "h%2F1"
      ∧ consoleTable.resolve "/hosts/h%2F1" = found
      ∧ consoleTable.reverse.Perm consoleTable
      ∧ Table.resolve consoleTable.reverse "/hosts/h%2F1" = found := by
  intro r found
  obtain ⟨-, hperm, hreached⟩ := consoleTable_is_unambiguous
  have hmem : r ∈ consoleTable := by decide +kernel
  have hvalue : IsValue "h%2F1" :=
    ⟨by decide, by decide +kernel, by decide +kernel⟩
  have hpath : fillText (fun _ => "h%2F1") r.pattern = "/hosts/h%2F1" := by
    decide +kernel
  have hnames : (Pattern.ofString r.pattern).names = ["hostId"] := by
    decide +kernel
  have hresolve :=
    (hreached r hmem (fun _ => "h%2F1") fun _ _ => hvalue).1 rfl
  rw [hpath, hnames] at hresolve
  have hreverse := List.reverse_perm consoleTable
  refine ⟨hmem, hvalue, hresolve, hreverse, ?_⟩
  rw [hperm _ hreverse, hresolve]
  rfl

end SecurityConsole.Route
