/-
Merging a source into a tree of settings, path by path.

The entries of a source spell a tree of their own: a name with points is a
table in a table (`sourceTree`), and merging the source is merging that
tree (`overlay_eq`). Along one path, merging then has two cases only. What a
source gives at the path takes the place of what was there, and a source
that gives nothing there leaves it alone (`mergedAt_overlay`).

This needs both sides to agree on what is a table and what is a leaf. A
value before the end of the path would be lost under a table, or take the
place of one with all that it holds; so the tree has tables there, as far as
it has anything (`IsOpen`), and the source has tables there and a value at
the end (`EndsAt`). What else the source holds makes no difference.
-/
import SecurityConsole.Settings.Tree

namespace SecurityConsole.Settings

namespace Tree

-- ================================================================== paths

/-- Whether a value is a table. -/
def isTable : Tree → Bool
  | .table _ => true
  | _ => false

/-- A table is the table of its entries. -/
theorem eq_table {t : Tree} (h : t.isTable = true) : t = .table t.entries := by
  cases t with
  | table es => rfl
  | _ => cases h

/-- The value at a path of names. -/
def at? (t : Tree) : List String → Option Tree
  | [] => some t
  | name :: rest => (t.get? name).bind (·.at? rest)

/-- The values that a tree gives at a path, in order. A table is no value;
names may be spelled in either case, and so there may be several. -/
def given (t : Tree) : List String → List Tree
  | [] => if t.isTable then [] else [t]
  | name :: rest => t.entries.flatMap fun e =>
      if e.1.toLower = name then e.2.given rest else []

/-- Whether what a tree has before the end of a path are tables. -/
def IsOpen (t : Tree) : List String → Prop
  | [] => True
  | name :: rest =>
    t.isTable = true ∧ ∀ u, t.get? name = some u → u.IsOpen rest

/-- Whether what a tree has along a path ends where the path ends: it has
tables before, and a value there. -/
def EndsAt (t : Tree) : List String → Prop
  | [] => t.isTable = false
  | name :: rest =>
    t.isTable = true ∧ ∀ e ∈ t.entries, e.1.toLower = name → e.2.EndsAt rest

instance decidableEndsAt : ∀ (t : Tree) (path : List String),
    Decidable (t.EndsAt path)
  | t, [] => inferInstanceAs (Decidable (t.isTable = false))
  | t, name :: rest =>
    have (e : String × Tree) : Decidable (e.2.EndsAt rest) :=
      decidableEndsAt e.2 rest
    inferInstanceAs (Decidable (t.isTable = true
      ∧ ∀ e ∈ t.entries, e.1.toLower = name → e.2.EndsAt rest))

/-- An empty tree is open along every path: nothing is in the way. -/
theorem isOpen_empty : ∀ path, (Tree.table []).IsOpen path
  | [] => trivial
  | _ :: _ => ⟨rfl, fun _ h => by cases h⟩

theorem at?_empty (name : String) (rest : List String) :
    (Tree.table []).at? (name :: rest) = none := rfl

/-- What a source gives at a path is what its entries give, one by
one. -/
theorem given_cons (e : String × Tree) (es : List (String × Tree))
    (name : String) (rest : List String) :
    (Tree.table (e :: es)).given (name :: rest)
      = (if e.1.toLower = name then e.2.given rest else [])
        ++ (Tree.table es).given (name :: rest) :=
  List.flatMap_cons

-- ================================================================ putting

theorem lookup_cons_eq (name : String) (v : Tree)
    (es : List (String × Tree)) (other : String) :
    ((name, v) :: es).lookup other
      = if other = name then some v else es.lookup other := by
  rw [List.lookup_cons]
  by_cases h : other = name
  · rw [if_pos h, beq_iff_eq.2 h]
  · rw [if_neg h, beq_eq_false_iff_ne.2 h]

/-- Putting an entry changes what is found under its name, and nothing
else. -/
theorem lookup_putEntry (name : String) (v : Tree)
    (es : List (String × Tree)) (other : String) :
    (putEntry name v es).lookup other
      = if other = name then some v else es.lookup other := by
  induction es with
  | nil => exact lookup_cons_eq name v [] other
  | cons first es ih =>
      obtain ⟨n, u⟩ := first
      rw [putEntry]
      by_cases hn : n = name
      · subst hn
        rw [if_pos rfl, lookup_cons_eq, lookup_cons_eq]
        by_cases h : other = n
        · rw [if_pos h, if_pos h]
        · rw [if_neg h, if_neg h, if_neg h]
      · rw [if_neg hn, lookup_cons_eq, lookup_cons_eq, ih]
        by_cases h : other = n
        · rw [if_pos h, if_pos h, if_neg (h ▸ hn)]
        · rw [if_neg h, if_neg h]

/-- So it is in the tree as a whole. -/
theorem get?_put (t : Tree) (name : String) (v : Tree) (other : String) :
    (t.put name v).get? other
      = if other = name then some v else t.get? other :=
  lookup_putEntry name v t.entries other

theorem get?_put_self (t : Tree) (name : String) (v : Tree) :
    (t.put name v).get? name = some v := by
  rw [get?_put, if_pos rfl]

theorem isTable_put (t : Tree) (name : String) (v : Tree) :
    (t.put name v).isTable = true := rfl

-- ================================================================ merging

/-- What is under a name, or an empty table. -/
def under (t : Tree) (name : String) : Tree :=
  (t.get? name).getD (.table [])

/-- A path that is open is so behind its first name. -/
theorem isOpen_under {t : Tree} {name : String} {rest : List String}
    (h : t.IsOpen (name :: rest)) : (t.under name).IsOpen rest := by
  unfold under
  cases hget : t.get? name with
  | none => exact isOpen_empty rest
  | some u => exact h.2 u hget

/-- What stands at a path stands in the table under its first name. -/
theorem at?_under (t : Tree) (name next : String) (rest : List String) :
    (t.under name).at? (next :: rest) = t.at? (name :: next :: rest) := by
  unfold under
  rw [at?.eq_2 t]
  cases t.get? name with
  | none => exact at?_empty next rest
  | some u => rfl

/-- A value takes the place of what was there, whatever it was. -/
theorem assign_value (name : String) (t : Tree) {v : Tree}
    (h : v.isTable = false) : assign name t v = t.put name.toLower v := by
  cases v with
  | table es => cases h
  | _ => rfl

/-- A table is merged into what was there, entry by entry. -/
theorem assign_table (name : String) (t : Tree) (es : List (String × Tree)) :
    assign name t (.table es)
      = t.put name.toLower ((t.under name.toLower).assignAll es) :=
  assign.eq_1 name t es

/-- Merging a value puts something under its name, whatever it is. -/
theorem exists_assign (name : String) (t v : Tree) :
    ∃ u, assign name t v = t.put name.toLower u := by
  cases v with
  | table es => exact ⟨_, assign_table name t es⟩
  | _ => exact ⟨_, assign_value name t rfl⟩

theorem isTable_assign (name : String) (t v : Tree) :
    (assign name t v).isTable = true := by
  obtain ⟨u, hu⟩ := exists_assign name t v
  rw [hu, isTable_put]

/-- Either leaves what stands under other names. -/
theorem get?_assign_of_ne (t v : Tree) {name other : String}
    (h : name.toLower ≠ other) :
    (assign name t v).get? other = t.get? other := by
  obtain ⟨u, hu⟩ := exists_assign name t v
  rw [hu, get?_put, if_neg (Ne.symm h)]

-- ========================================================== along a path

/-- What merging did to a tree along a path: the tree is still open there,
and has the last of some values, or what it had before. -/
structure MergedAt (path : List String) (vs : List Tree) (t t' : Tree) :
    Prop where
  isOpen : t'.IsOpen path
  value : t'.at? path = vs.getLast?.or (t.at? path)

/-- Sources one behind the other: the last that gives something
decides. -/
theorem MergedAt.trans {path : List String} {vs ws : List Tree}
    {t t' t'' : Tree} (h : MergedAt path vs t t')
    (h' : MergedAt path ws t' t'') : MergedAt path (vs ++ ws) t t'' := by
  refine ⟨h'.isOpen, ?_⟩
  rw [h'.value, h.value, List.getLast?_append, Option.or_assoc]

/-- A value under another name makes no difference. -/
theorem mergedAt_assign_of_ne {t : Tree} {name next : String}
    {rest : List String} (v : Tree) (hopen : t.IsOpen (next :: rest))
    (h : name.toLower ≠ next) :
    MergedAt (next :: rest) [] t (assign name t v) := by
  refine ⟨⟨isTable_assign name t v, ?_⟩, ?_⟩
  · rw [get?_assign_of_ne t v h]
    exact hopen.2
  · rw [at?.eq_2, get?_assign_of_ne t v h]
    rfl

/-- A value at the end of the path takes its place. -/
theorem mergedAt_assign_value {t v : Tree} {name next : String}
    (hv : v.isTable = false) (h : name.toLower = next) :
    MergedAt [next] [v] t (assign name t v) := by
  subst h
  rw [assign_value name t hv]
  refine ⟨⟨isTable_put _ _ _, fun _ _ => trivial⟩, ?_⟩
  rw [at?.eq_2, get?_put_self]
  rfl

/-- A table is merged one level below. -/
theorem mergedAt_assign_table {t : Tree} {name next next' : String}
    {rest : List String} {es : List (String × Tree)} {vs : List Tree}
    (h : name.toLower = next)
    (hbelow : MergedAt (next' :: rest) vs (t.under next)
      ((t.under next).assignAll es)) :
    MergedAt (next :: next' :: rest) vs t (assign name t (.table es)) := by
  subst h
  rw [assign_table]
  refine ⟨⟨isTable_put _ _ _, fun u hu => ?_⟩, ?_⟩
  · rw [get?_put_self] at hu
    cases hu
    exact hbelow.isOpen
  · rw [at?.eq_2, get?_put_self, ← at?_under]
    exact hbelow.value

/-- Merging a tree that ends where the path ends: all that it gives at the
path is put there, and the last of it stays. -/
theorem mergedAt_assignAll : ∀ {path : List String} {t : Tree}
    {es : List (String × Tree)}, path ≠ [] → t.IsOpen path →
      (Tree.table es).EndsAt path →
      MergedAt path ((Tree.table es).given path) t (t.assignAll es) := by
  intro path
  induction path with
  | nil => intro t es hne; exact absurd rfl hne
  | cons next rest below =>
      intro t es _ hopen hends
      induction es generalizing t with
      | nil => exact ⟨hopen, rfl⟩
      -- the first entry alone, then the others on what it leaves
      | cons e es ih =>
          obtain ⟨name, v⟩ := e
          have hmore : (Tree.table es).EndsAt (next :: rest) :=
            ⟨rfl, fun e he => hends.2 e (List.mem_cons_of_mem _ he)⟩
          have hstep : MergedAt (next :: rest)
              (if name.toLower = next then v.given rest else []) t
              (assign name t v) := by
            by_cases hname : name.toLower = next
            · have hv : v.EndsAt rest :=
                hends.2 (name, v) List.mem_cons_self hname
              rw [if_pos hname]
              cases rest with
              | nil =>
                  have hgiven : v.given [] = [v] :=
                    if_neg (by rw [hv]; exact Bool.false_ne_true)
                  rw [hgiven]
                  exact mergedAt_assign_value hv hname
              | cons next' rest =>
                  obtain ⟨entries, rfl⟩ : ∃ entries, v = .table entries :=
                    ⟨v.entries, eq_table hv.1⟩
                  exact mergedAt_assign_table hname
                    (below (List.cons_ne_nil next' rest)
                      (isOpen_under hopen) hv)
            · rw [if_neg hname]
              exact mergedAt_assign_of_ne v hopen hname
          rw [assignAll, given_cons]
          exact hstep.trans (ih hstep.isOpen hmore)

end Tree

-- ================================================================ sources

/-- A value at the end of a path of names, as a table in a table. -/
def nest (v : Tree) : List String → Tree
  | [] => v
  | name :: rest => .table [(name, nest v rest)]

/-- An entry of a source, of which the name may be a path. -/
def spread (e : String × Tree) : String × Tree :=
  match Tree.pathOf e.1 with
  | [] => e
  | name :: rest => (name, nest e.2 rest)

/-- The tree that the entries of a source spell. -/
def sourceTree (source : List (String × Tree)) : Tree :=
  .table (source.map spread)

namespace Tree

/-- A name with points is assigned as the tables in tables that it
stands for. -/
theorem assignAt_nest (v : Tree) : ∀ (t : Tree) (name : String)
    (rest : List String),
    assignAt t v (name :: rest) = assign name t (nest v rest) := by
  intro t name rest
  induction rest generalizing t name with
  | nil => rfl
  | cons next rest ih =>
      rw [assignAt, ih, nest, assign_table, assignAll, assignAll]
      -- nothing is the same as an empty table to what is put below it
      have hnull : ∀ w, assign next .null w = assign next (.table []) w := by
        intro w
        cases w with
        | table es => rw [assign_table, assign_table]; rfl
        | _ => rfl
      unfold under
      cases t.get? name.toLower with
      | none => rw [Option.getD_none, hnull]; rfl
      | some u => rfl
      exact fun h => by cases h

theorem pathOf_ne_nil (name : String) : pathOf name ≠ [] := by
  unfold pathOf
  intro h
  exact Text.cutAt_ne_nil _ _ (List.map_eq_nil_iff.1 h)

/-- Merging a source is merging the tree that it spells. -/
theorem overlay_eq (t : Tree) (source : List (String × Tree)) :
    t.overlay source = t.assignAll (source.map spread) := by
  unfold overlay
  induction source generalizing t with
  | nil => rfl
  | cons e source ih =>
      rw [List.foldl_cons, ih, List.map_cons]
      obtain ⟨name, rest, hpath⟩ :=
        List.exists_cons_of_ne_nil (pathOf_ne_nil e.1)
      have hspread : spread e = (name, nest e.2 rest) := by
        unfold spread
        rw [hpath]
      rw [hspread, assignAll, hpath, assignAt_nest]

/-- A source that ends where a path ends puts there what it gives there. -/
theorem mergedAt_overlay {t : Tree} {source : List (String × Tree)}
    {path : List String} (hne : path ≠ []) (hopen : t.IsOpen path)
    (hends : (sourceTree source).EndsAt path) :
    MergedAt path ((sourceTree source).given path) t (t.overlay source) := by
  rw [overlay_eq]
  exact mergedAt_assignAll hne hopen hends

end Tree
end SecurityConsole.Settings
