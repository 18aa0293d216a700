/-
The settings as the values of their leaves.

A setting is a leaf at a path of two names. What is read from a tree is told
leaf by leaf (`ofTree?_leaves`): a leaf has the value that the tree has at
its path, converted to what the leaf is, or the default where the tree has
nothing. No leaf looks at the path of another.
-/
import SecurityConsole.Settings.Basic
import SecurityConsole.Proofs.Settings.Merging

namespace SecurityConsole

namespace Settings

-- ================================================================= leaves

/-- The settings, one by one. -/
inductive Leaf where
  | baseUrl
  | sharedPath
  | timeout
  | storagePath
  | logLevel
  | endpoint
  | startPath
  | username
  | password
  deriving DecidableEq, Repr

/-- What a setting can be. -/
inductive LeafValue where
  | text (s : String)
  | number (n : Nat)
  | unset
  deriving DecidableEq, Repr

namespace Leaf

/-- The names under which a setting is found. -/
def path : Leaf → List String
  | baseUrl => ["api", "base_url"]
  | sharedPath => ["api", "prefix"]
  | timeout => ["api", "timeout_secs"]
  | storagePath => ["storage", "path"]
  | logLevel => ["telemetry", "log_level"]
  | endpoint => ["telemetry", "otlp_endpoint"]
  | startPath => ["console", "start_path"]
  | username => ["console", "username"]
  | password => ["console", "password"]

/-- All settings. -/
def all : List Leaf :=
  [baseUrl, sharedPath, timeout, storagePath, logLevel, endpoint, startPath,
    username, password]

theorem mem_all (leaf : Leaf) : leaf ∈ all := by
  cases leaf <;> decide

/-- What a setting is if nothing sets it. One has to be set. -/
def default? : Leaf → Option LeafValue
  | baseUrl => none
  | sharedPath => some (.text "/api/v1")
  | timeout => some (.number 30)
  | logLevel => some (.text "info")
  | startPath => some (.text "/dashboard")
  | storagePath => some .unset
  | endpoint => some .unset
  | username => some .unset
  | password => some .unset

/-- What a setting is if it is set to a value; `none` if the value cannot be
converted. -/
def value? : Leaf → Tree → Option LeafValue
  | timeout, v => v.nat?.map .number
  | _, v => v.text?.map .text

/-- What a setting is, given the value that it is set to, if it is set. -/
def read? (leaf : Leaf) (o : Option Tree) : Option LeafValue :=
  o.elim leaf.default? leaf.value?

/-- Whether a setting can be set to a value, if it is set. -/
def Takes (leaf : Leaf) (o : Option Tree) : Prop :=
  ∀ v, o = some v → (leaf.value? v).isSome = true

end Leaf

end Settings

/-- The value of a setting. -/
def Settings.leaf (s : Settings) : Settings.Leaf → Settings.LeafValue
  | .baseUrl => .text s.api.baseUrl
  | .sharedPath => .text s.api.sharedPath
  | .timeout => .number s.api.timeout
  | .storagePath => s.storagePath.elim .unset .text
  | .logLevel => .text s.telemetry.logLevel
  | .endpoint => s.telemetry.endpoint.elim .unset .text
  | .startPath => .text s.start.startPath
  | .username => s.start.username.elim .unset .text
  | .password => s.start.password.elim .unset .text

namespace Settings

-- ================================================================= values

/-- A value that is taken for a text is read as one. -/
theorem text_reads {v : Tree}
    (h : (v.text?.map LeafValue.text).isSome = true) :
    ∃ s, v.text? = some s := by
  rw [Option.isSome_map] at h
  exact Option.isSome_iff_exists.1 h

/-- A text that may be missing: the value, read as a text, or the
default. -/
theorem textOr_reads (default : String) {o : Option Tree}
    (h : ∀ v, o = some v → (v.text?.map LeafValue.text).isSome = true) :
    ∃ s, textOr default o = some s
      ∧ some (LeafValue.text s)
        = o.elim (some (.text default)) fun v => v.text?.map .text := by
  cases o with
  | none => exact ⟨default, rfl, rfl⟩
  | some v =>
      obtain ⟨s, hs⟩ := text_reads (h v rfl)
      exact ⟨s, hs, by simp [hs]⟩

/-- A number that may be missing, in the same way. -/
theorem natOr_reads (default : Nat) {o : Option Tree}
    (h : ∀ v, o = some v → (v.nat?.map LeafValue.number).isSome = true) :
    ∃ n, natOr default o = some n
      ∧ some (LeafValue.number n)
        = o.elim (some (.number default)) fun v => v.nat?.map .number := by
  cases o with
  | none => exact ⟨default, rfl, rfl⟩
  | some v =>
      have hv := h v rfl
      rw [Option.isSome_map] at hv
      obtain ⟨n, hn⟩ := Option.isSome_iff_exists.1 hv
      exact ⟨n, hn, by simp [hn]⟩

section
variable {es : List (String × Tree)}

/-- A text without a default: unset if it is missing, and read as a text
if it is there. -/
theorem optional_reads (place : Nat) {name : String}
    (h : ∀ v, es.lookup name = some v →
      (v.text?.map LeafValue.text).isSome = true) :
    ∃ s, (Section.named es).optional? place name = some s
      ∧ some (s.elim LeafValue.unset .text)
        = (es.lookup name).elim (some .unset) fun v =>
            v.text?.map .text := by
  have hvalue : (Section.named es).value? place name = es.lookup name := rfl
  unfold Section.optional?
  rw [hvalue]
  cases hlookup : es.lookup name with
  | none => exact ⟨none, rfl, rfl⟩
  | some v =>
      obtain ⟨s, hs⟩ := text_reads (h v hlookup)
      refine ⟨some s, ?_, by simp [hs]⟩
      cases v with
      | null => cases hs
      | _ => exact congrArg (Option.map some) hs

-- =============================================================== sections

/-- The server's section, which has to have an address. -/
theorem readApi?_leaves (hset : (es.lookup "base_url").isSome = true)
    (hbase : Leaf.baseUrl.Takes (es.lookup "base_url"))
    (hshared : Leaf.sharedPath.Takes (es.lookup "prefix"))
    (htimeout : Leaf.timeout.Takes (es.lookup "timeout_secs")) :
    ∃ api, readApi? (.table es) = some api
      ∧ some (.text api.baseUrl) = Leaf.baseUrl.read? (es.lookup "base_url")
      ∧ some (.text api.sharedPath)
        = Leaf.sharedPath.read? (es.lookup "prefix")
      ∧ some (.number api.timeout)
        = Leaf.timeout.read? (es.lookup "timeout_secs") := by
  obtain ⟨v, hv⟩ := Option.isSome_iff_exists.1 hset
  obtain ⟨baseUrl, hbaseUrl⟩ := text_reads (hbase v hv)
  obtain ⟨sharedPath, hread, hsharedIs⟩ :=
    textOr_reads defaultSharedPath hshared
  obtain ⟨timeout, hread', htimeoutIs⟩ := natOr_reads defaultTimeout htimeout
  refine ⟨⟨baseUrl, sharedPath, timeout⟩, ?_, ?_, hsharedIs, htimeoutIs⟩
  · simp [readApi?, Section.of?, Section.value?, hv, hbaseUrl, hread, hread']
  · rw [hv]
    exact congrArg (Option.map LeafValue.text) hbaseUrl.symm

theorem readStorage?_leaves
    (hpath : Leaf.storagePath.Takes (es.lookup "path")) :
    ∃ path, readStorage? (.table es) = some path
      ∧ some (path.elim .unset .text)
        = Leaf.storagePath.read? (es.lookup "path") :=
  optional_reads 0 hpath

/-- Each leaf of a section is read from its own name. -/
theorem readTelemetry?_leaves
    (hlevel : Leaf.logLevel.Takes (es.lookup "log_level"))
    (hend : Leaf.endpoint.Takes (es.lookup "otlp_endpoint")) :
    ∃ telemetry, readTelemetry? (.table es) = some telemetry
      ∧ some (.text telemetry.logLevel)
        = Leaf.logLevel.read? (es.lookup "log_level")
      ∧ some (telemetry.endpoint.elim .unset .text)
        = Leaf.endpoint.read? (es.lookup "otlp_endpoint") := by
  obtain ⟨level, hread, hlevelIs⟩ := textOr_reads defaultLogLevel hlevel
  obtain ⟨endpoint, hread', hendIs⟩ := optional_reads 1 hend
  refine ⟨⟨level, endpoint⟩, ?_, hlevelIs, hendIs⟩
  simp [Section.of?, Section.value?, readTelemetry?, hread, hread']

theorem readStart?_leaves
    (hpath : Leaf.startPath.Takes (es.lookup "start_path"))
    (huser : Leaf.username.Takes (es.lookup "username"))
    (hpass : Leaf.password.Takes (es.lookup "password")) :
    ∃ start, readStart? (.table es) = some start
      ∧ some (.text start.startPath)
        = Leaf.startPath.read? (es.lookup "start_path")
      ∧ some (start.username.elim .unset .text)
        = Leaf.username.read? (es.lookup "username")
      ∧ some (start.password.elim .unset .text)
        = Leaf.password.read? (es.lookup "password") := by
  obtain ⟨path, hread, hpathIs⟩ := textOr_reads defaultStartPath hpath
  obtain ⟨user, huserRead, huserIs⟩ := optional_reads 1 huser
  obtain ⟨pass, hpassRead, hpassIs⟩ := optional_reads 2 hpass
  refine ⟨⟨path, user, pass⟩, ?_, hpathIs, huserIs, hpassIs⟩
  simp [readStart?, Section.of?, Section.value?, hread, huserRead, hpassRead]

end

/-- A section is a table of what the tree has below its name, and an empty
one if it has nothing there. -/
theorem sectionOf_entries {t : Tree} {name key : String}
    (h : t.IsOpen [name, key]) :
    ∃ es, sectionOf t name = .table es
      ∧ ∀ key, es.lookup key = t.at? [name, key] := by
  unfold sectionOf
  cases hget : t.get? name with
  | none =>
      refine ⟨[], rfl, fun key => ?_⟩
      rw [Tree.at?, hget]
      rfl
  | some u =>
      have hu := (h.2 u hget).1
      refine ⟨u.entries, Tree.eq_table hu, fun key => ?_⟩
      rw [Tree.at?, hget]
      show u.get? key = (u.get? key).bind fun v => v.at? []
      cases u.get? key <;> rfl

/-- A section with something in it is there. -/
theorem get?_of_at? {t : Tree} {name key : String}
    (h : (t.at? [name, key]).isSome = true) :
    t.get? name = some (sectionOf t name) := by
  unfold sectionOf
  cases hget : t.get? name with
  | none =>
      rw [Tree.at?, hget] at h
      cases h
  | some u => rfl

-- =============================================================== settings

/-- The settings of a tree, leaf by leaf. They are read if the address of
the server is there, and each leaf has the value that the tree has at its
path, or its default. -/
theorem ofTree?_leaves {t : Tree}
    (hopen : ∀ leaf : Leaf, t.IsOpen leaf.path)
    (hserver : (t.at? Leaf.baseUrl.path).isSome = true)
    (htakes : ∀ leaf : Leaf, leaf.Takes (t.at? leaf.path)) :
    ∃ s, ofTree? t = some s ∧ ∀ leaf : Leaf,
      some (s.leaf leaf) = leaf.read? (t.at? leaf.path) := by
  obtain ⟨apiEs, hapiEs, hinApi⟩ := sectionOf_entries (hopen .baseUrl)
  obtain ⟨storageEs, hstorageEs, hinStorage⟩ :=
    sectionOf_entries (hopen .storagePath)
  obtain ⟨telemetryEs, htelemetryEs, hinTelemetry⟩ :=
    sectionOf_entries (hopen .logLevel)
  obtain ⟨startEs, hstartEs, hinStart⟩ := sectionOf_entries (hopen .startPath)
  obtain ⟨api, hapi, hbase, hshared, htimeout⟩ :=
    readApi?_leaves ((hinApi _).symm ▸ hserver)
      ((hinApi _).symm ▸ htakes .baseUrl)
      ((hinApi _).symm ▸ htakes .sharedPath)
      ((hinApi _).symm ▸ htakes .timeout)
  obtain ⟨path, hstorage, hpath⟩ :=
    readStorage?_leaves ((hinStorage _).symm ▸ htakes .storagePath)
  obtain ⟨telemetry, htelemetry, hlevel, hend⟩ :=
    readTelemetry?_leaves ((hinTelemetry _).symm ▸ htakes .logLevel)
      ((hinTelemetry _).symm ▸ htakes .endpoint)
  obtain ⟨start, hstart, hstartPath, huser, hpass⟩ :=
    readStart?_leaves ((hinStart _).symm ▸ htakes .startPath)
      ((hinStart _).symm ▸ htakes .username)
      ((hinStart _).symm ▸ htakes .password)
  rw [hinApi] at hbase hshared htimeout
  rw [hinStorage] at hpath
  rw [hinTelemetry] at hlevel hend
  rw [hinStart] at hstartPath huser hpass
  refine ⟨⟨api, path, telemetry, start⟩, ?_, fun leaf => ?_⟩
  · simp [ofTree?, get?_of_at? hserver, hapiEs, hapi, hstorageEs, hstorage,
      htelemetryEs, htelemetry, hstartEs, hstart]
  · cases leaf with
    | baseUrl => exact hbase
    | sharedPath => exact hshared
    | timeout => exact htimeout
    | storagePath => exact hpath
    | logLevel => exact hlevel
    | endpoint => exact hend
    | startPath => exact hstartPath
    | username => exact huser
    | password => exact hpass

end Settings
end SecurityConsole
