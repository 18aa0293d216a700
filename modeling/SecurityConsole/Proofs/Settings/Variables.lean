/-
Which variables set a leaf, after a file of variables was loaded.

A file says that variables have values (`Dotenv.definitions`), and loading
it adds them one by one, unless there is one of that name (`load_eq`). What
names a setting and what names a variable are not the same: the path of a
setting is the same in small and capital letters, but variables of different
spelling are different variables. So a definition is not added if the
environment has a variable of its very name, and is added behind those of
the environment if it has one of another spelling (`setters_addAll`).
-/
import SecurityConsole.Settings.Sources
import SecurityConsole.Proofs.Settings.Merging

namespace SecurityConsole.Settings

namespace Tree

variable {source : List (String × Tree)} {path : List String}

/-- An entry of a source gives what its nested value gives. -/
theorem given_sourceTree (source : List (String × Tree))
    (hne : path ≠ []) :
    (sourceTree source).given path
      = source.flatMap fun e => (nest e.2 (pathOf e.1)).given path := by
  obtain ⟨name, rest, rfl⟩ := List.exists_cons_of_ne_nil hne
  unfold sourceTree
  induction source with
  | nil => rfl
  | cons e source ih =>
      obtain ⟨first, names, hpath⟩ :=
        List.exists_cons_of_ne_nil (pathOf_ne_nil e.1)
      have hspread : spread e = (first, nest e.2 names) := by
        unfold spread
        rw [hpath]
      rw [List.map_cons, given_cons, ih, List.flatMap_cons, hspread, hpath,
        nest, given_cons]
      show _ = _ ++ [] ++ _
      rw [List.append_nil]

/-- A text at the end of names is given there, in whatever letters. -/
theorem given_nest (s : String) : ∀ names path,
    (nest (.text s) names).given path
      = if names.map String.toLower = path then [.text s] else [] := by
  intro names
  induction names with
  | nil =>
      intro path
      cases path with
      | nil => rfl
      | cons name rest => rfl
  | cons first names ih =>
      intro path
      cases path with
      | nil => rfl
      | cons name rest =>
          rw [nest, given_cons, ih]
          show _ ++ [] = _
          rw [List.append_nil, List.map_cons]
          by_cases hname : first.toLower = name
          · by_cases hrest : names.map String.toLower = rest
            · rw [if_pos hname, if_pos hrest, if_pos (by rw [hname, hrest])]
            · rw [if_pos hname, if_neg hrest,
                if_neg fun h => hrest (List.cons.inj h).2]
          · rw [if_neg hname, if_neg fun h => hname (List.cons.inj h).1]

/-- Fewer entries end where more do. -/
theorem EndsAt.of_subset {fewer : List (String × Tree)}
    (h : (sourceTree source).EndsAt path) (hsub : fewer ⊆ source) :
    (sourceTree fewer).EndsAt path := by
  cases path with
  | nil => cases h
  | cons name rest =>
      refine ⟨rfl, fun e he => h.2 e ?_⟩
      exact List.map_subset spread hsub he

/-- Two sources that end at a path do so together. -/
theorem EndsAt.append {more : List (String × Tree)}
    (h : (sourceTree source).EndsAt path)
    (h' : (sourceTree more).EndsAt path) :
    (sourceTree (source ++ more)).EndsAt path := by
  cases path with
  | nil => cases h
  | cons name rest =>
      refine ⟨rfl, fun e he => ?_⟩
      unfold sourceTree entries at he
      rw [List.map_append] at he
      rcases List.mem_append.1 he with he | he
      · exact h.2 e he
      · exact h'.2 e he

end Tree

-- =============================================================== variables

namespace Environment

variable {env : Environment} {path : List String}

/-- The path that a variable sets, in small letters. -/
def pathSet? (name : String) : Option (List String) :=
  (settingPath? name).map fun path => (Tree.pathOf path).map String.toLower

/-- The variables that set a path. -/
def setters (env : Environment) (path : List String) : Environment :=
  env.filter fun v => pathSet? v.1 = some path

/-- A variable of the leaf is one of its setters. -/
theorem setters_cons_of_eq {d : String × String} (defs : Environment)
    (h : pathSet? d.1 = some path) :
    setters (d :: defs) path = d :: setters defs path :=
  List.filter_cons_of_pos (by simp [h])

/-- A variable of another leaf, or of none, is not. -/
theorem setters_cons_of_ne {d : String × String} (defs : Environment)
    (h : pathSet? d.1 ≠ some path) :
    setters (d :: defs) path = setters defs path :=
  List.filter_cons_of_neg (by simp [h])

theorem settings_cons_none {v : String × String} (env : Environment)
    (h : settingPath? v.1 = none) : settings (v :: env) = settings env :=
  List.filterMap_cons_none (congrArg (Option.map (·, Tree.text v.2)) h)

theorem settings_cons_some {v : String × String} {p : String}
    (env : Environment) (h : settingPath? v.1 = some p) :
    settings (v :: env) = (p, .text v.2) :: settings env :=
  List.filterMap_cons_some (congrArg (Option.map (·, Tree.text v.2)) h)

/-- At a path, an environment gives the values of the variables that set
it. -/
theorem given_settings (env : Environment) (hne : path ≠ []) :
    (sourceTree env.settings).given path
      = (env.setters path).map (.text ·.2) := by
  rw [Tree.given_sourceTree _ hne]
  induction env with
  | nil => rfl
  | cons v env ih =>
      cases hpath : settingPath? v.1 with
      | none =>
          rw [settings_cons_none env hpath, ih,
            setters_cons_of_ne env (by simp [pathSet?, hpath])]
      | some p =>
          have hset : pathSet? v.1 = some ((Tree.pathOf p).map String.toLower) :=
            congrArg _ hpath
          rw [settings_cons_some env hpath, List.flatMap_cons, ih,
            Tree.given_nest]
          by_cases h : (Tree.pathOf p).map String.toLower = path
          · rw [if_pos h, setters_cons_of_eq env (h ▸ hset)]
            rfl
          · rw [if_neg h, setters_cons_of_ne env]
            · rfl
            · exact fun heq => h (Option.some.inj (hset.symm.trans heq))

/-- Fewer variables set fewer leaves. -/
theorem settings_subset {fewer : Environment} (h : fewer ⊆ env) :
    fewer.settings ⊆ env.settings := by
  intro e he
  obtain ⟨v, hv, hev⟩ := List.mem_filterMap.1 he
  exact List.mem_filterMap.2 ⟨v, h hv, hev⟩

theorem settings_append (env more : Environment) :
    settings (env ++ more) = settings env ++ settings more :=
  List.filterMap_append

theorem pathSet?_of_mem {v : String × String} (h : v ∈ env.setters path) :
    pathSet? v.1 = some path :=
  of_decide_eq_true (List.mem_filter.1 h).2

-- ================================================================== adding

/-- Add variables one by one. -/
def addAll (env defs : Environment) : Environment :=
  defs.foldl (fun env d => env.add d.1 d.2) env

/-- A variable that is there is not added again. -/
theorem add_of_set {name : String} (value : String)
    (h : (env.value? name).isSome = true) : env.add name value = env :=
  if_pos h

/-- One that is not there is added behind the others. -/
theorem add_of_unset {name : String} (value : String)
    (h : ¬ (env.value? name).isSome = true) :
    env.add name value = env ++ [(name, value)] :=
  if_neg h

/-- What is there after adding was there, or was added. -/
theorem addAll_subset (env defs : Environment) :
    env.addAll defs ⊆ env ++ defs := by
  unfold addAll
  induction defs generalizing env with
  | nil => exact fun v hv => List.mem_append_left [] hv
  | cons d defs ih =>
      rw [List.foldl_cons]
      intro v hv
      rcases List.mem_append.1 (ih _ hv) with hv | hv
      · by_cases h : (env.value? d.1).isSome = true
        · rw [add_of_set d.2 h] at hv
          exact List.mem_append_left _ hv
        · rw [add_of_unset d.2 h] at hv
          rcases List.mem_append.1 hv with hv | hv
          · exact List.mem_append_left _ hv
          · rw [List.mem_singleton.1 hv]
            exact List.mem_append_right _ List.mem_cons_self
      · exact List.mem_append_right _ (List.mem_cons_of_mem _ hv)

/-- A variable of another name does not notice. -/
theorem value?_add_of_ne {name other : String} (value : String)
    (h : other ≠ name) :
    (env.add name value).value? other = env.value? other := by
  by_cases hset : (env.value? name).isSome = true
  · rw [add_of_set value hset]
  · rw [add_of_unset value hset]
    unfold value?
    rw [List.lookup_append, List.lookup_cons, beq_eq_false_iff_ne.2 h]
    exact Option.or_none

/-- A definition that sets another path does not notice either. -/
theorem setters_add_of_ne {d : String × String}
    (h : pathSet? d.1 ≠ some path) :
    (env.add d.1 d.2).setters path = env.setters path := by
  by_cases hset : (env.value? d.1).isSome = true
  · rw [add_of_set d.2 hset]
  · rw [add_of_unset d.2 hset]
    unfold setters
    rw [List.filter_append, List.filter_cons_of_neg (by simp [h])]
    exact List.append_nil _

/-- Adding a variable of the leaf adds a setter at the end, unless there
is a variable of that very name. -/
theorem setters_add_of_eq {d : String × String}
    (h : pathSet? d.1 = some path) :
    (env.add d.1 d.2).setters path
      = env.setters path
        ++ [d].filter fun d => (env.value? d.1).isNone := by
  rw [List.filter_cons]
  cases hset : env.value? d.1 with
  | some value =>
      rw [add_of_set d.2 (by rw [hset]; rfl)]
      exact (List.append_nil _).symm
  | none =>
      rw [add_of_unset d.2 (by rw [hset]; exact Bool.false_ne_true)]
      unfold setters
      rw [List.filter_append, List.filter_cons_of_pos (by simp [h])]
      rfl

/-- Where definitions set a path once, it is set by what set it before, and
then by the definition, unless there was a variable of its name. -/
theorem setters_addAll : ∀ {defs : Environment} (env : Environment),
    (setters defs path).length ≤ 1 →
    (env.addAll defs).setters path
      = env.setters path
        ++ (setters defs path).filter fun d => (env.value? d.1).isNone := by
  intro defs
  induction defs with
  | nil => intro env _; exact (List.append_nil _).symm
  | cons d defs ih =>
      intro env honce
      show (addAll (env.add d.1 d.2) defs).setters path = _
      by_cases h : pathSet? d.1 = some path
      · rw [setters_cons_of_eq defs h] at honce ⊢
        have hnone : setters defs path = [] :=
          List.length_eq_zero_iff.1 (by simpa using honce)
        rw [ih _ (by rw [hnone]; exact Nat.zero_le 1), hnone,
          setters_add_of_eq h]
        exact List.append_nil _
      · rw [setters_cons_of_ne defs h] at honce ⊢
        rw [ih _ honce, setters_add_of_ne h]
        refine congrArg _ (List.filter_congr fun v hv => ?_)
        have hne : v.1 ≠ d.1 := fun heq => h (heq ▸ pathSet?_of_mem hv)
        rw [value?_add_of_ne d.2 hne]

/-- A definition that sets a path is new if no variable that sets the path
has its name. -/
theorem isNone_value?_iff {d : String × String}
    (hd : pathSet? d.1 = some path) :
    (env.value? d.1).isNone = true ↔ ∀ v ∈ env.setters path, v.1 ≠ d.1 := by
  unfold value?
  rw [Option.isNone_iff_eq_none, List.lookup_eq_none_iff]
  constructor
  · intro h v hv heq
    have := h v (List.mem_filter.1 hv).1
    simp [heq] at this
  · intro h v hv
    by_cases heq : v.1 = d.1
    · exact absurd heq
        (h v (List.mem_filter.2 ⟨hv, by simp [heq, hd]⟩))
    · simpa using Ne.symm heq

end Environment

-- ============================================================= definitions

namespace Dotenv

/-- What the lines of a text say, up to the first bad one. -/
def definitionsOf (env : Environment) : Nat → List Char → Environment
  | 0, _ => []
  | n + 1, text =>
    match logicalLine? [] .plain (text.length + 1) text with
    | none => []
    | some (line, rest) =>
      match readLine? env line with
      | none => []
      | some .blank => definitionsOf env n rest
      | some (.definition name value) =>
        (name, value) :: definitionsOf (env.add name value) n rest

/-- The definitions of a file. -/
def definitions (env : Environment) (text : String) : Environment :=
  definitionsOf env (text.length + 1) text.toList

/-- Reading lines is adding what they define, up to the first bad one. A
reference in a value is read in the environment as it is at that line,
so the definitions are told with it. -/
theorem readLines_eq : ∀ (n : Nat) (env : Environment) (text : List Char),
    readLines env n text = env.addAll (definitionsOf env n text) := by
  intro n
  induction n with
  | zero => intro env text; rfl
  | succ n ih =>
      intro env text
      rw [readLines, definitionsOf]
      cases logicalLine? [] .plain (text.length + 1) text with
      | none => rfl
      | some read =>
          obtain ⟨line, rest⟩ := read
          cases hline : readLine? env line with
          | none => simp only [hline]; rfl
          | some said =>
              cases said with
              | blank => simp only [hline]; exact ih env rest
              | definition name value =>
                  simp only [hline]
                  exact ih (env.add name value) rest

/-- Loading a file adds its definitions. -/
theorem load_eq (env : Environment) (text : String) :
    load env text = env.addAll (definitions env text) :=
  readLines_eq _ env text.toList

end Dotenv
end SecurityConsole.Settings
