/-
The settings as layers: a file, local changes, a file of variables and the
environment, each of which sets some leaves.

A leaf has the value of the source that goes before all others that set it,
or its default if none does, and nothing else that the sources hold makes a
difference to it (`layers_merge`). The environment goes before the file of
variables, save where both set a leaf by variables of different spelling:
these are two variables and one setting, and then the file goes before the
environment (`Respelled`), since its variables are added behind.
-/
import SecurityConsole.Proofs.Settings.Leaves
import SecurityConsole.Proofs.Settings.Variables

namespace SecurityConsole.Settings

/-- Whether a source sets leaves properly: along their paths it has tables,
each is set at most once, and by a value that it can have. -/
structure SetsLeaves (source : List (String × Tree)) : Prop where
  ends : ∀ leaf : Leaf, (sourceTree source).EndsAt leaf.path
  once : ∀ leaf : Leaf, ((sourceTree source).given leaf.path).length ≤ 1
  fits : ∀ leaf : Leaf, ∀ v ∈ (sourceTree source).given leaf.path,
    (leaf.value? v).isSome = true

instance (source : List (String × Tree)) : Decidable (SetsLeaves source) :=
  decidable_of_iff
    (∀ leaf ∈ Leaf.all, (sourceTree source).EndsAt leaf.path
      ∧ ((sourceTree source).given leaf.path).length ≤ 1
      ∧ ∀ v ∈ (sourceTree source).given leaf.path,
          (leaf.value? v).isSome = true)
    ⟨fun h => ⟨fun leaf => (h leaf leaf.mem_all).1,
        fun leaf => (h leaf leaf.mem_all).2.1,
        fun leaf => (h leaf leaf.mem_all).2.2⟩,
      fun h leaf _ => ⟨h.ends leaf, h.once leaf, h.fits leaf⟩⟩

theorem Leaf.path_ne_nil (leaf : Leaf) : leaf.path ≠ [] := by
  cases leaf <;> exact List.cons_ne_nil _ _

namespace Sources

-- ================================================================= ranking

section
variable (s : Sources) (path : List String)

/-- What the file of variables says. -/
def definitions : Environment :=
  s.variableFile.elim [] (Dotenv.definitions s.environment)

/-- Whether the environment and the file of variables set a path by
variables of different spelling. -/
def Respelled : Prop :=
  ∃ v ∈ s.environment.setters path, ∃ d ∈ s.definitions.setters path,
    v.1 ≠ d.1

instance : Decidable (s.Respelled path) :=
  inferInstanceAs (Decidable (∃ v ∈ s.environment.setters path,
    ∃ d ∈ s.definitions.setters path, v.1 ≠ d.1))

/-- The variables that set a path, that which goes before the other
first. -/
def setters : Environment :=
  if s.Respelled path then
    s.definitions.setters path ++ s.environment.setters path
  else s.environment.setters path ++ s.definitions.setters path

/-- The values that a path is set to, that which goes before all others
first. -/
def ranked (base changes : List (String × Tree)) : List Tree :=
  (s.setters path).map (.text ·.2)
    ++ ((sourceTree changes).given path ++ (sourceTree base).given path)

/-- Whether other sources set a path as these do, whatever else they hold.
What counts for the file of variables is what its values come to, since they
may refer to other variables. -/
structure SetAlike (base changes : List (String × Tree)) (s' : Sources)
    (base' changes' : List (String × Tree)) : Prop where
  environment : s'.environment.setters path = s.environment.setters path
  file : s'.definitions.setters path = s.definitions.setters path
  changes : (sourceTree changes').given path = (sourceTree changes).given path
  base : (sourceTree base').given path = (sourceTree base).given path

end

/-- Sources that set leaves, with what their files say. The address of the
server is set by one of them. -/
structure Layered (s : Sources) (base changes : List (String × Tree)) :
    Prop where
  readsBase : s.base.bind Yaml.read? = some base
  readsChanges : s.localChanges.elim (some []) Yaml.read? = some changes
  inBase : SetsLeaves base
  inChanges : SetsLeaves changes
  inFile : SetsLeaves (Environment.settings s.definitions)
  inEnvironment : SetsLeaves (Environment.settings s.environment)
  server : s.ranked Leaf.baseUrl.path base changes ≠ []

-- =============================================================== variables

variable {s : Sources} {base changes : List (String × Tree)}

/-- The environment that settings are read from has the definitions of
the file added to it. -/
theorem variablesSet_eq (s : Sources) :
    s.variablesSet = s.environment.addAll s.definitions := by
  unfold variablesSet definitions
  cases s.variableFile with
  | none => rfl
  | some text => exact Dotenv.load_eq s.environment text

/-- In a source that sets leaves, each leaf is set once at most. -/
theorem length_setters {env : Environment} (leaf : Leaf)
    (h : SetsLeaves env.settings) : (env.setters leaf.path).length ≤ 1 := by
  have honce := h.once leaf
  rwa [Environment.given_settings env leaf.path_ne_nil, List.length_map]
    at honce

/-- Of one thing at most, the first is the last. -/
theorem getLast?_eq_head? {α : Type} {l : List α} (h : l.length ≤ 1) :
    l.getLast? = l.head? := by
  match l, h with
  | [], _ => rfl
  | [_], _ => rfl

theorem eq_singleton {α : Type} {l : List α} {a : α} (h : l.length ≤ 1)
    (ha : a ∈ l) : l = [a] := by
  match l, h with
  | [_], _ => rw [List.mem_singleton.1 ha]

/-- Of the variables that are set in the end, the last one that sets a leaf
is the first in rank. -/
theorem getLast?_setters (h : s.Layered base changes) (leaf : Leaf) :
    (s.variablesSet.setters leaf.path).getLast?
      = (s.setters leaf.path).head? := by
  have hown := length_setters leaf h.inEnvironment
  have hadded := length_setters leaf h.inFile
  have hnew : ∀ d ∈ s.definitions.setters leaf.path,
      (s.environment.value? d.1).isNone = true
        ↔ ∀ v ∈ s.environment.setters leaf.path, v.1 ≠ d.1 :=
    fun d hd => Environment.isNone_value?_iff
      (Environment.pathSet?_of_mem hd)
  rw [variablesSet_eq, Environment.setters_addAll _ hadded, setters]
  by_cases hspelled : s.Respelled leaf.path
  -- the file spells the name its own way: it is added, and stands last
  · rw [if_pos hspelled]
    obtain ⟨v, hv, d, hd, hne⟩ := hspelled
    have hdnew : (s.environment.value? d.1).isNone = true := by
      rw [hnew d hd, eq_singleton hown hv]
      intro w hw
      rwa [List.mem_singleton.1 hw]
    rw [eq_singleton hadded hd, List.filter_cons, if_pos hdnew,
      List.filter_nil]
    exact List.getLast?_concat
  · rw [if_neg hspelled]
    cases henv : s.environment.setters leaf.path with
    | nil =>
        -- the environment says nothing of it: all that the file says is
        -- new
        have hall : (s.definitions.setters leaf.path).filter
            (fun d => (s.environment.value? d.1).isNone)
              = s.definitions.setters leaf.path := by
          refine List.filter_eq_self.2 fun d hd => (hnew d hd).2 ?_
          rw [henv]
          exact fun v hv => by cases hv
        rw [hall]
        exact getLast?_eq_head? hadded
    | cons v rest =>
        -- both spell it alike: what the file says is not added
        have hv : v ∈ s.environment.setters leaf.path :=
          henv ▸ List.mem_cons_self
        have hnone : (s.definitions.setters leaf.path).filter
            (fun d => (s.environment.value? d.1).isNone) = [] := by
          refine List.filter_eq_nil_iff.2 fun d hd hdnew => ?_
          exact hspelled ⟨v, hv, d, hd, (hnew d hd).1 hdnew v hv⟩
        rw [hnone, List.append_nil, ← henv, getLast?_eq_head? hown, henv]
        rfl

-- ================================================================== layers

/-- Adding variables keeps leaves where leaves are. -/
theorem endsAt_variablesSet (h : s.Layered base changes) (leaf : Leaf) :
    (sourceTree s.variablesSet.settings).EndsAt leaf.path := by
  have hboth := (h.inEnvironment.ends leaf).append (h.inFile.ends leaf)
  rw [← Environment.settings_append] at hboth
  refine hboth.of_subset (Environment.settings_subset ?_)
  rw [variablesSet_eq]
  exact Environment.addAll_subset _ _

/-- All sources merged. -/
theorem merged?_eq (h : s.Layered base changes) :
    s.merged? = some (((Tree.overlay (.table []) base).overlay changes).overlay
      s.variablesSet.settings) := by
  obtain ⟨text, htext, hbase⟩ := Option.bind_eq_some_iff.1 h.readsBase
  have hchanges := h.readsChanges
  unfold merged?
  rw [htext]
  cases hlocal : s.localChanges with
  | none =>
      rw [hlocal] at hchanges
      cases hchanges
      simp [hbase]
  | some text =>
      rw [hlocal] at hchanges
      have hread : Yaml.read? text = some changes := hchanges
      simp [hbase, hread]

/-- In the merged sources, a leaf has the first value in rank, and nothing
if there is none. -/
theorem merged?_leaf (h : s.Layered base changes) :
    ∃ t, s.merged? = some t ∧ ∀ leaf : Leaf,
      t.IsOpen leaf.path
        ∧ t.at? leaf.path = (s.ranked leaf.path base changes).head? := by
  refine ⟨_, merged?_eq h, fun leaf => ?_⟩
  have hbase := Tree.mergedAt_overlay leaf.path_ne_nil
    (Tree.isOpen_empty leaf.path) (h.inBase.ends leaf)
  have hchanges := Tree.mergedAt_overlay leaf.path_ne_nil hbase.isOpen
    (h.inChanges.ends leaf)
  have hvariables := Tree.mergedAt_overlay leaf.path_ne_nil hchanges.isOpen
    (endsAt_variablesSet h leaf)
  have hempty : (Tree.table []).at? leaf.path = none := by
    cases leaf <;> rfl
  refine ⟨hvariables.isOpen, ?_⟩
  rw [hvariables.value, hchanges.value, hbase.value, hempty, Option.or_none,
    Environment.given_settings _ leaf.path_ne_nil, List.getLast?_map,
    getLast?_setters h leaf, getLast?_eq_head? (h.inChanges.once leaf),
    getLast?_eq_head? (h.inBase.once leaf)]
  unfold ranked
  rw [List.head?_append, List.head?_append, List.head?_map]

/-- Each value in rank is one that the leaf can have. -/
theorem ranked_fits (h : s.Layered base changes) (leaf : Leaf) :
    ∀ v ∈ s.ranked leaf.path base changes, (leaf.value? v).isSome = true := by
  have hvariable : ∀ {env : Environment}, SetsLeaves env.settings →
      ∀ d ∈ env.setters leaf.path,
        (leaf.value? (.text d.2)).isSome = true := by
    intro env henv d hd
    refine henv.fits leaf _ ?_
    rw [Environment.given_settings env leaf.path_ne_nil]
    exact List.mem_map.2 ⟨d, hd, rfl⟩
  intro v hv
  unfold ranked at hv
  rcases List.mem_append.1 hv with hv | hv
  · obtain ⟨d, hd, rfl⟩ := List.mem_map.1 hv
    have hset : d ∈ s.environment.setters leaf.path
        ∨ d ∈ s.definitions.setters leaf.path := by
      unfold setters at hd
      split at hd
      · exact (List.mem_append.1 hd).symm
      · exact List.mem_append.1 hd
    rcases hset with hd | hd
    · exact hvariable h.inEnvironment d hd
    · exact hvariable h.inFile d hd
  · rcases List.mem_append.1 hv with hv | hv
    · exact h.inChanges.fits leaf v hv
    · exact h.inBase.fits leaf v hv

/-- What other sources hold beside a path makes no difference to its rank. -/
theorem ranked_congr {path : List String} {s' : Sources}
    {base' changes' : List (String × Tree)}
    (h : s.SetAlike path base changes s' base' changes') :
    s'.ranked path base' changes' = s.ranked path base changes := by
  have hspelled : s'.Respelled path ↔ s.Respelled path := by
    unfold Respelled
    rw [h.environment, h.file]
  have hsetters : s'.setters path = s.setters path := by
    unfold setters
    by_cases hs : s.Respelled path
    · rw [if_pos hs, if_pos (hspelled.2 hs), h.file, h.environment]
    · rw [if_neg hs, if_neg (mt hspelled.1 hs), h.file, h.environment]
  unfold ranked
  rw [hsetters, h.changes, h.base]

/-- The settings of layered sources: each leaf is read from the first value
in rank, or is its default. -/
theorem settings?_leaf (h : s.Layered base changes) :
    ∃ settings, s.settings? = some settings ∧ ∀ leaf : Leaf,
      some (settings.leaf leaf)
        = leaf.read? (s.ranked leaf.path base changes).head? := by
  obtain ⟨t, hmerged, hleaf⟩ := merged?_leaf h
  have hserver : (t.at? Leaf.baseUrl.path).isSome = true := by
    rw [(hleaf .baseUrl).2, List.isSome_head?]
    simpa using h.server
  have htakes : ∀ leaf : Leaf, leaf.Takes (t.at? leaf.path) := by
    intro leaf v hv
    rw [(hleaf leaf).2] at hv
    exact ranked_fits h leaf v (List.mem_of_head? hv)
  obtain ⟨settings, hread, hvalue⟩ :=
    ofTree?_leaves (fun leaf => (hleaf leaf).1) hserver htakes
  refine ⟨settings, ?_, fun leaf => ?_⟩
  · rw [settings?, hmerged]
    exact hread
  · rw [hvalue leaf, (hleaf leaf).2]

end Sources

/-- Layers are merged leaf by leaf. The settings can be read; each leaf is
read from the first value in rank, or is its default if nothing sets it; and
it is the same with all other sources that set it alike, whatever they set
beside it. -/
theorem layers_merge {s : Sources} {base changes : List (String × Tree)}
    (h : s.Layered base changes) :
    ∃ settings, s.settings? = some settings
      ∧ (∀ leaf : Leaf, some (settings.leaf leaf)
          = leaf.read? (s.ranked leaf.path base changes).head?)
      ∧ ∀ (s' : Sources) base' changes', s'.Layered base' changes' →
          ∃ settings', s'.settings? = some settings' ∧ ∀ leaf : Leaf,
            s.SetAlike leaf.path base changes s' base' changes' →
            settings'.leaf leaf = settings.leaf leaf := by
  obtain ⟨settings, hread, hleaf⟩ := Sources.settings?_leaf h
  refine ⟨settings, hread, hleaf, ?_⟩
  intro s' base' changes' h'
  obtain ⟨settings', hread', hleaf'⟩ := Sources.settings?_leaf h'
  refine ⟨settings', hread', fun leaf halike => ?_⟩
  have heq : some (settings'.leaf leaf) = some (settings.leaf leaf) := by
    rw [hleaf' leaf, Sources.ranked_congr halike, hleaf leaf]
  exact Option.some.inj heq

/-- Sources of which the later ones set what the earlier ones set too. -/
def fourLayers : Sources where
  base := some "api:\n  base_url: http://base\n"
  localChanges := some "api:\n  base_url: http://local\n"
  variableFile := some "APP_API__TIMEOUT_SECS=20\n"
  environment := [("APP_API__TIMEOUT_SECS", "5")]

/-- The local changes go before the base, the environment before the
file of variables, and what nobody sets has its default. -/
theorem fourLayers_merge :
    ∃ settings, fourLayers.settings? = some settings
      ∧ settings.leaf .baseUrl = .text "http://local"
      ∧ settings.leaf .timeout = .number 5
      ∧ settings.leaf .logLevel = .text "info" := by
  have hfile : fourLayers.definitions = [("APP_API__TIMEOUT_SECS", "20")] := by
    decide +kernel
  have hlayered : fourLayers.Layered
      [("api", .table [("base_url", .text "http://base")])]
      [("api", .table [("base_url", .text "http://local")])] :=
    { readsBase := by decide +kernel
      readsChanges := by decide +kernel
      inBase := by decide +kernel
      inChanges := by decide +kernel
      inFile := by rw [hfile]; decide +kernel
      inEnvironment := by decide +kernel
      server := by
        refine List.append_ne_nil_of_right_ne_nil _ ?_
        decide +kernel }
  obtain ⟨settings, hread, hleaf, -⟩ := layers_merge hlayered
  refine ⟨settings, hread, ?_, ?_, ?_⟩
  · exact Option.some.inj ((hleaf .baseUrl).trans (by decide +kernel))
  · exact Option.some.inj ((hleaf .timeout).trans (by decide +kernel))
  · exact Option.some.inj ((hleaf .logLevel).trans (by decide +kernel))

/-- Sources of which the environment and the file of variables set one leaf
by two variables. -/
def twoSpellings : Sources where
  base := some "api:\n  base_url: http://base\n"
  localChanges := none
  variableFile := some "app_api__base_url=http://dotenv\n"
  environment := [("APP_API__BASE_URL", "http://environment")]

/-- The environment sets the address of the server, and yet the file of
variables, which spells it otherwise, has the last word. -/
theorem respelled_variable_wins :
    twoSpellings.Layered
        [("api", .table [("base_url", .text "http://base")])] []
      ∧ twoSpellings.environment.setters Leaf.baseUrl.path
        = [("APP_API__BASE_URL", "http://environment")]
      ∧ ∃ settings, twoSpellings.settings? = some settings
        ∧ settings.leaf .baseUrl = .text "http://dotenv" := by
  have hfile :
      twoSpellings.definitions = [("app_api__base_url", "http://dotenv")] := by
    decide +kernel
  have hlayered : twoSpellings.Layered
      [("api", .table [("base_url", .text "http://base")])] [] :=
    { readsBase := by decide +kernel
      readsChanges := rfl
      inBase := by decide +kernel
      inChanges := by decide +kernel
      inFile := by rw [hfile]; decide +kernel
      inEnvironment := by decide +kernel
      server := by
        refine List.append_ne_nil_of_right_ne_nil _ ?_
        decide +kernel }
  obtain ⟨settings, hread, hleaf⟩ := Sources.settings?_leaf hlayered
  refine ⟨hlayered, by decide +kernel, settings, hread, ?_⟩
  exact Option.some.inj ((hleaf .baseUrl).trans (by decide +kernel))

end SecurityConsole.Settings
