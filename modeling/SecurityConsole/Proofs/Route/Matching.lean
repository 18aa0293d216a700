/-
Matching a pattern and filling it in undo each other.

A pattern matches the segments that agree with it, and finds for each
parameter the segment in its place (`Pattern.match?_eq_some_iff`). Two
facts follow. What was found fills the pattern up to the segments again
(`Pattern.fill?_captured`); and a pattern that was filled in matches, with
just the texts it was filled with (`Pattern.match?_filled`). Both need the
names of the parameters to be distinct: of two parameters of one name, the
later one replaces the earlier.

A path is filled in where it is written, as a text. A text cannot tell a
mark of the pattern's own from one that ends the path; so a pattern with a
`?` or a `#` in a fixed segment matches no location at all, not even its
own (`marked_pattern_misses`). Without such marks, a filled path belongs to
its route in every table where no earlier route takes it
(`matching_inverts_filling`).
-/
import SecurityConsole.Route.Table
import SecurityConsole.Proofs.Route.Spelling

namespace SecurityConsole.Route

open Text (cutAt)

-- ============================================================== agreement

namespace Pattern

/-- Whether segments agree with a pattern: there are as many, and at every
fixed position the same. -/
structure Agrees (p : Pattern) (segs : List String) : Prop where
  length : segs.length = p.length
  fixed : ∀ (i : Nat) text, p[i]? = some (Segment.fixed text) →
    segs[i]? = some text

/-- The segments at the positions of the parameters. -/
def captured : Pattern → List String → Params
  | .param name :: rest, s :: ss => (name, s) :: captured rest ss
  | .fixed _ :: rest, _ :: ss => captured rest ss
  | _, _ => []

variable {p : Pattern} {segs : List String}

theorem agrees_nil : Agrees [] [] :=
  ⟨rfl, fun _ _ h => by cases h⟩

theorem not_agrees_nil {s : String} : ¬ Agrees [] (s :: segs) :=
  fun h => by cases h.length

theorem not_agrees_cons {x : Segment} : ¬ Agrees (x :: p) [] :=
  fun h => by cases h.length

/-- A fixed segment agrees with itself only. -/
theorem agrees_fixed_iff {text s : String} :
    Agrees (Segment.fixed text :: p) (s :: segs) ↔ text = s ∧ p.Agrees segs := by
  constructor
  · intro h
    have hhere : some s = some text := h.fixed 0 text rfl
    exact ⟨(Option.some.inj hhere).symm, Nat.succ.inj h.length,
      fun i t hi => h.fixed (i + 1) t hi⟩
  · rintro ⟨rfl, h⟩
    refine ⟨congrArg Nat.succ h.length, fun i t hi => ?_⟩
    cases i with
    | zero => cases hi; rfl
    | succ i => exact h.fixed i t hi

/-- A parameter agrees with any segment. -/
theorem agrees_param_iff {name s : String} :
    Agrees (Segment.param name :: p) (s :: segs) ↔ p.Agrees segs := by
  constructor
  · intro h
    exact ⟨Nat.succ.inj h.length, fun i t hi => h.fixed (i + 1) t hi⟩
  · intro h
    refine ⟨congrArg Nat.succ h.length, fun i t hi => ?_⟩
    cases i with
    | zero => cases hi
    | succ i => exact h.fixed i t hi

-- =============================================================== matching

/-- A parameter that is new stands behind those found before. -/
theorem put_of_new {name : String} (text : String) {found : Params}
    (h : name ∉ found.map Prod.fst) :
    found.put name text = found ++ [(name, text)] := by
  induction found with
  | nil => rfl
  | cons first found ih =>
      rw [List.map_cons, List.mem_cons, not_or] at h
      rw [Params.put, if_neg (Ne.symm h.1), ih h.2]
      rfl

/-- What is left of a pattern matches the segments that agree with it, and
adds a parameter for each of its names to those found before. -/
theorem matchFrom?_eq_some_iff {params : Params} :
    ∀ {p : Pattern} {segs : List String} {found : Params}, p.names.Nodup →
      (∀ name ∈ p.names, name ∉ found.map Prod.fst) →
      (p.matchFrom? found segs = some params
        ↔ p.Agrees segs ∧ params = found ++ p.captured segs) := by
  intro p
  induction p with
  | nil =>
      intro segs found _ _
      cases segs with
      | nil => simp [matchFrom?, captured, agrees_nil, eq_comm]
      | cons s segs => simp [matchFrom?, not_agrees_nil]
  | cons x p ih =>
      intro segs found hnodup hnew
      cases segs with
      | nil => cases x <;> simp [matchFrom?, not_agrees_cons]
      | cons s segs =>
          cases x with
          | fixed text =>
              rw [matchFrom?, agrees_fixed_iff, captured]
              by_cases htext : text = s
              · rw [if_pos htext, ih hnodup hnew]
                simp [htext]
              · simp [htext]
          | param name =>
              obtain ⟨hname, hnodup⟩ := List.nodup_cons.1 hnodup
              have hput := put_of_new s (hnew name List.mem_cons_self)
              have hnew' : ∀ n ∈ names p,
                  n ∉ (found ++ [(name, s)]).map Prod.fst := by
                intro n hn hmem
                rw [List.map_append, List.mem_append] at hmem
                rcases hmem with hmem | hmem
                · exact hnew n (List.mem_cons_of_mem name hn) hmem
                · obtain rfl : n = name := List.mem_singleton.1 hmem
                  exact hname hn
              rw [matchFrom?, agrees_param_iff, captured, hput,
                ih hnodup hnew', List.append_assoc]
              rfl

/-- A pattern matches the segments that agree with it, and finds what
stands in the places of its parameters. -/
theorem match?_eq_some_iff {params : Params} (hnodup : p.names.Nodup) :
    p.match? segs = some params
      ↔ p.Agrees segs ∧ params = p.captured segs :=
  matchFrom?_eq_some_iff hnodup fun _ _ => List.not_mem_nil

/-- What a pattern matches agrees with it, whatever its names. -/
theorem agrees_of_matchFrom? {params : Params} :
    ∀ {p : Pattern} {segs : List String} {found : Params},
      p.matchFrom? found segs = some params → p.Agrees segs := by
  intro p
  induction p with
  | nil =>
      intro segs found h
      cases segs with
      | nil => exact agrees_nil
      | cons s segs => cases h
  | cons x p ih =>
      intro segs found h
      cases segs with
      | nil => cases x <;> cases h
      | cons s segs =>
          cases x with
          | fixed text =>
              rw [matchFrom?] at h
              split at h
              · exact agrees_fixed_iff.2 ⟨‹text = s›, ih h⟩
              · cases h
          | param name => exact agrees_param_iff.2 (ih h)

/-- There is one segment for each parameter. -/
theorem names_captured : ∀ {p : Pattern} {segs : List String},
    p.Agrees segs → (p.captured segs).map Prod.fst = p.names := by
  intro p
  induction p with
  | nil =>
      intro segs _
      cases segs <;> rfl
  | cons x p ih =>
      intro segs h
      cases segs with
      | nil => exact absurd h not_agrees_cons
      | cons s segs =>
          cases x with
          | fixed text => exact ih (agrees_fixed_iff.1 h).2
          | param name => exact congrArg (name :: ·) (ih (agrees_param_iff.1 h))

-- ================================================================ filling

/-- A text of a parameter is found under its name, if the names are
distinct. -/
theorem lookup_of_mem {params : Params} {name text : String}
    (hnodup : (params.map Prod.fst).Nodup) (h : (name, text) ∈ params) :
    params.get? name = some text := by
  induction params with
  | nil => cases h
  | cons first params ih =>
      obtain ⟨hfirst, hnodup⟩ := List.nodup_cons.1 hnodup
      rcases List.mem_cons.1 h with rfl | h
      · exact List.lookup_cons_self
      · have hne : (name == first.1) = false := by
          refine beq_eq_false_iff_ne.2 fun heq => hfirst ?_
          exact List.mem_map.2 ⟨(name, text), h, heq⟩
        unfold Params.get?
        rw [List.lookup_cons, hne]
        exact ih hnodup h

/-- Parameters that give each position its segment fill the pattern up to
the segments. -/
theorem fill?_of_captured {params : Params} :
    ∀ {p : Pattern} {segs : List String}, p.Agrees segs →
      (∀ x ∈ p.captured segs, params.get? x.1 = some x.2) →
      p.fill? params = some segs := by
  intro p
  induction p with
  | nil =>
      intro segs h _
      cases segs with
      | nil => rfl
      | cons s segs => exact absurd h not_agrees_nil
  | cons x p ih =>
      intro segs h hget
      cases segs with
      | nil => exact absurd h not_agrees_cons
      | cons s segs =>
          cases x with
          | fixed text =>
              obtain ⟨htext, hrest⟩ := agrees_fixed_iff.1 h
              rw [fill?, ih hrest hget, htext]
              rfl
          | param name =>
              have hhere := hget (name, s) List.mem_cons_self
              have hrest := ih (agrees_param_iff.1 h)
                fun x hx => hget x (List.mem_cons_of_mem _ hx)
              rw [fill?, hhere, hrest]

/-- What a pattern found fills it up to the segments it was found in. -/
theorem fill?_captured (hnodup : p.names.Nodup) (h : p.Agrees segs) :
    p.fill? (p.captured segs) = some segs := by
  refine fill?_of_captured h fun x hx => lookup_of_mem ?_ hx
  rw [names_captured h]
  exact hnodup

-- ================================================================ filling in

/-- A segment of a pattern with a text for its parameter. -/
def filledWith (values : String → String) : Segment → String
  | .fixed text => text
  | .param name => values name

/-- A pattern that was filled in agrees with what it was filled up to. -/
theorem agrees_filled (values : String → String) (p : Pattern) :
    p.Agrees (p.map (filledWith values)) := by
  refine ⟨List.length_map _, fun i text hi => ?_⟩
  rw [List.getElem?_map, hi]
  rfl

/-- What was filled in is captured, parameter by parameter. -/
theorem captured_filled (values : String → String) : ∀ p : Pattern,
    p.captured (p.map (filledWith values))
      = p.names.map fun name => (name, values name) := by
  intro p
  induction p with
  | nil => rfl
  | cons x p ih =>
      cases x with
      | fixed text => exact ih
      | param name => exact congrArg ((name, values name) :: ·) ih

/-- A pattern that was filled in matches, with the texts that it was filled
with. -/
theorem match?_filled (hnodup : p.names.Nodup) (values : String → String) :
    p.match? (p.map (filledWith values))
      = some (p.names.map fun name => (name, values name)) := by
  rw [match?_eq_some_iff hnodup, captured_filled]
  exact ⟨agrees_filled values p, rfl⟩

end Pattern

-- ============================================================ filled paths

/-- Whether a text can stand for a parameter in a path: it is not empty and
holds neither a slash nor a mark. -/
structure IsValue (text : String) : Prop where
  nonempty : text ≠ ""
  slashless : '/' ∉ text.toList
  unmarked : Unmarked text.toList

/-- A part of a pattern's text, with a text in the place of a name. -/
def fillPart (values : String → String) (part : List Char) : List Char :=
  (Pattern.filledWith values (.ofString (String.ofList part))).toList

/-- The text of a pattern with texts in the places of its names. -/
def fillText (values : String → String) (pattern : String) : String :=
  String.ofList (joinParts
    ((cutAt (· = '/') pattern.toList).map (fillPart values)))

/-- Whether a segment holds no mark of its own; a name does not count. -/
def Segment.IsUnmarked : Segment → Prop
  | .fixed text => Unmarked text.toList
  | .param _ => True

instance : DecidablePred Segment.IsUnmarked
  | .fixed text => inferInstanceAs (Decidable (Unmarked text.toList))
  | .param _ => inferInstanceAs (Decidable True)

/-- Whether no fixed segment of a pattern holds a mark. -/
def Pattern.IsUnmarked (p : Pattern) : Prop := ∀ s ∈ p, s.IsUnmarked

instance : DecidablePred Pattern.IsUnmarked :=
  fun p => inferInstanceAs (Decidable (∀ s ∈ p, s.IsUnmarked))

theorem Pattern.mem_names {p : Pattern} {name : String}
    (h : Segment.param name ∈ p) : name ∈ p.names := by
  induction p with
  | nil => cases h
  | cons x p ih =>
      rcases List.mem_cons.1 h with rfl | hrest
      · exact List.mem_cons_self
      · cases x with
        | fixed text => exact ih hrest
        | param other => exact List.mem_cons_of_mem other (ih hrest)

/-- A fixed segment is spelled as it is. -/
theorem fixed_of_ofString {s text : String}
    (h : Segment.ofString s = .fixed text) : s = text := by
  unfold Segment.ofString at h
  split at h
  · cases h
  · cases h
    rfl

section
variable {pattern : String} {values : String → String} {part : List Char}

/-- A part of a pattern's text is a segment of the pattern, if it is not
empty. -/
theorem ofString_mem (h : part ∈ cutAt (· = '/') pattern.toList)
    (hne : part ≠ []) :
    Segment.ofString (String.ofList part) ∈ Pattern.ofString pattern := by
  refine List.mem_map_of_mem ?_
  rw [segments_eq]
  refine List.mem_map_of_mem (List.mem_filter.2 ⟨h, ?_⟩)
  simpa using hne

/-- A part that was filled in is the part itself, or the text of a
parameter. -/
theorem fillPart_cases (values : String → String)
    (h : part ∈ cutAt (· = '/') pattern.toList) :
    (fillPart values part = part
        ∧ (part ≠ [] →
          Segment.fixed (String.ofList part) ∈ Pattern.ofString pattern))
      ∨ ∃ name ∈ (Pattern.ofString pattern).names,
        part ≠ [] ∧ fillPart values part = (values name).toList := by
  unfold fillPart
  cases hseg : Segment.ofString (String.ofList part) with
  | fixed text =>
      have htext := fixed_of_ofString hseg
      refine .inl ⟨?_, fun hne => ?_⟩
      · rw [Pattern.filledWith, ← htext, String.toList_ofList]
      · rw [htext, ← hseg]
        exact ofString_mem h hne
  | param name =>
      have hne : part ≠ [] := by
        rintro rfl
        cases hseg
      refine .inr ⟨name, Pattern.mem_names ?_, hne, rfl⟩
      rw [← hseg]
      exact ofString_mem h hne

variable
  (hvalues : ∀ name ∈ (Pattern.ofString pattern).names,
    IsValue (values name))
include hvalues

/-- Filling in brings no slash into a part, as the texts have none. -/
theorem fillPart_slashless (h : part ∈ cutAt (· = '/') pattern.toList) :
    '/' ∉ fillPart values part := by
  rcases fillPart_cases values h with
    ⟨hsame, -⟩ | ⟨name, hname, -, hvalue⟩
  · rw [hsame]
    exact slashless_of_mem_cutAt h
  · rw [hvalue]
    exact (hvalues name hname).slashless

/-- Nor does it make a part empty, as the texts are not. -/
theorem fillPart_isEmpty (h : part ∈ cutAt (· = '/') pattern.toList) :
    (fillPart values part).isEmpty = part.isEmpty := by
  rcases fillPart_cases values h with
    ⟨hsame, -⟩ | ⟨name, hname, hne, hvalue⟩
  · rw [hsame]
  · have hne' : (values name).toList ≠ [] := fun hnil =>
      (hvalues name hname).nonempty (String.toList_eq_nil_iff.1 hnil)
    rw [hvalue, List.isEmpty_eq_false_iff.2 hne,
      List.isEmpty_eq_false_iff.2 hne']

/-- Nor does it bring a mark. -/
theorem fillPart_unmarked (hplain : (Pattern.ofString pattern).IsUnmarked)
    (h : part ∈ cutAt (· = '/') pattern.toList) :
    Unmarked (fillPart values part) := by
  rcases fillPart_cases values h with
    ⟨hsame, hfixed⟩ | ⟨name, hname, -, hvalue⟩
  · rw [hsame]
    intro c hc
    refine hplain _ (hfixed (List.ne_nil_of_mem hc)) c ?_
    rwa [String.toList_ofList]
  · rw [hvalue]
    exact (hvalues name hname).unmarked

/-- The text of a pattern that was filled in spells the pattern's segments,
filled in. -/
theorem spells_fillText :
    Spells (fillText values pattern).toList
      ((Pattern.ofString pattern).map (Pattern.filledWith values)) := by
  let parts := cutAt (· = '/') pattern.toList
  have hspells := spells_joinParts (parts.map (fillPart values)) (by
    intro filled hfilled
    obtain ⟨part, hpart, rfl⟩ := List.mem_map.1 hfilled
    exact fillPart_slashless hvalues hpart)
  have hkept : (parts.map (fillPart values)).filter (!·.isEmpty)
      = (parts.filter (!·.isEmpty)).map (fillPart values) := by
    rw [List.filter_map]
    refine congrArg _ (List.filter_congr fun part hpart => ?_)
    exact congrArg (!·) (fillPart_isEmpty hvalues hpart)
  have hsegments : (Pattern.ofString pattern).map
        (Pattern.filledWith values)
      = ((parts.filter (!·.isEmpty)).map (fillPart values)).map
          String.ofList := by
    unfold Pattern.ofString
    rw [segments_eq]
    simp only [List.map_map]
    refine List.map_congr_left fun part _ => ?_
    exact String.ofList_toList.symm
  unfold fillText
  rw [String.toList_ofList, hsegments, ← hkept]
  exact hspells

/-- The text of a pattern that was filled in is all path. -/
theorem pathOf_fillText (hplain : (Pattern.ofString pattern).IsUnmarked) :
    pathOf (fillText values pattern) = fillText values pattern := by
  refine pathOf_of_unmarked fun c hc => ?_
  rcases mem_joinParts hc with rfl | ⟨filled, hfilled, hc⟩
  · exact fun h => by rcases h with h | h <;> cases h
  · obtain ⟨part, hpart, rfl⟩ := List.mem_map.1 hfilled
    exact fillPart_unmarked hvalues hplain hpart c hc

end

-- ================================================================= tables

section
variable {r : Definition} {path : String} {params : Params}

/-- A path belongs to the first route that matches it. -/
theorem Table.resolvePath_of_first {earlier : Table} (later : Table)
    (hearlier : ∀ e ∈ earlier, e.match? path = none)
    (h : r.match? path = some params) :
    Table.resolvePath path (earlier ++ r :: later)
      = r.resolution path params := by
  induction earlier with
  | nil =>
      show Table.resolvePath path (r :: later) = _
      rw [resolvePath, h]
  | cons e earlier ih =>
      show Table.resolvePath path (e :: (earlier ++ r :: later)) = _
      rw [resolvePath, hearlier e List.mem_cons_self]
      exact ih fun x hx => hearlier x (List.mem_cons_of_mem e hx)

/-- A filled path is matched by its pattern, with what it was filled
with. -/
theorem Definition.match?_fillText {values : String → String}
    (hnodup : (Pattern.ofString r.pattern).names.Nodup)
    (hvalues : ∀ name ∈ (Pattern.ofString r.pattern).names,
      IsValue (values name)) :
    r.match? (fillText values r.pattern)
      = some ((Pattern.ofString r.pattern).names.map
          fun name => (name, values name)) := by
  unfold Definition.match?
  rw [segments_eq_iff.2 (spells_fillText hvalues)]
  exact Pattern.match?_filled hnodup values

/-- What a resolution says, whatever the spelling of the path. -/
def Resolution.said : Resolution → (Definition × Params) ⊕ String
  | .found m => .inl (m.route, m.params)
  | .redirect target => .inr target

/-- Two paths that spell the same segments lead to the same place. -/
theorem Table.resolvePath_said {path' : String}
    (h : segments path = segments path') (t : Table) :
    (t.resolvePath path).said = (t.resolvePath path').said := by
  induction t with
  | nil => rfl
  | cons r rest ih =>
      have hmatch : r.match? path = r.match? path' := by
        unfold Definition.match?
        rw [h]
      rw [resolvePath, resolvePath, hmatch]
      cases r.match? path' with
      | none => exact ih
      | some params =>
          unfold Definition.resolution
          cases r.redirect <;> rfl

/-- A pattern with a mark in a fixed segment matches no location. -/
theorem Definition.match?_of_marked
    (h : ¬ (Pattern.ofString r.pattern).IsUnmarked) (location : String) :
    r.match? (pathOf location) = none := by
  rw [Option.eq_none_iff_forall_ne_some]
  intro params hparams
  refine h fun s hs => ?_
  cases s with
  | param name => exact trivial
  | fixed text =>
      intro c hc
      -- the fixed segment is one of the path, which holds no mark
      obtain ⟨i, hi⟩ := List.getElem?_of_mem hs
      have hagrees := Pattern.agrees_of_matchFrom? hparams
      have hseg := List.mem_of_getElem? (hagrees.fixed i text hi)
      exact unmarked_pathOf location c ((spells_segments _).mem hseg hc)

end

-- ============================================================ both at once

/-- Matching and filling in undo each other, for every route whose
parameters have distinct names.

A location matches if the segments of its path agree with the pattern, and
what is found fills the pattern up to these segments. A path that was filled
in belongs to the route, with what it was filled with, in every table where
no earlier route takes it; only a pattern with a mark in a fixed segment is
missed, by its own paths as by all others. More slashes between segments, in
front or behind, and what follows the path, make no difference to where a
location leads. -/
theorem matching_inverts_filling {r : Definition}
    (hnames : (Pattern.ofString r.pattern).names.Nodup) :
    let p := Pattern.ofString r.pattern
    (∀ location,
        let segs := segments (pathOf location)
        Spells (pathOf location).toList segs
          ∧ ((r.match? (pathOf location)).isSome = true ↔ p.Agrees segs)
          ∧ ∀ params, r.match? (pathOf location) = some params →
            params.map Prod.fst = p.names ∧ p.fill? params = some segs)
      ∧ (p.IsUnmarked → ∀ values : String → String,
          (∀ name ∈ p.names, IsValue (values name)) →
          let path := fillText values r.pattern
          Spells path.toList (p.map (Pattern.filledWith values))
            ∧ ∀ earlier later : Table,
              (∀ e ∈ earlier, e.match? (pathOf path) = none) →
              Table.resolve (earlier ++ r :: later) path
                = r.resolution path
                    (p.names.map fun name => (name, values name)))
      ∧ (¬ p.IsUnmarked → ∀ location, r.match? (pathOf location) = none)
      ∧ ∀ (t : Table) segs path path' suffix suffix',
        Spells path segs → Spells path' segs →
        Unmarked (path ++ path') →
        IsSuffix suffix → IsSuffix suffix' →
        (t.resolve (String.ofList (path ++ suffix))).said
          = (t.resolve (String.ofList (path' ++ suffix'))).said := by
  intro p
  refine ⟨fun location => ?_, fun hplain values hvalues => ?_,
    Definition.match?_of_marked, ?_⟩
  · intro segs
    have hmatch : ∀ params, r.match? (pathOf location) = some params
        ↔ p.Agrees segs ∧ params = p.captured segs :=
      fun params => Pattern.match?_eq_some_iff hnames
    refine ⟨spells_segments _, ?_, fun params h => ?_⟩
    · rw [Option.isSome_iff_exists]
      exact ⟨fun ⟨params, h⟩ => ((hmatch params).1 h).1,
        fun h => ⟨p.captured segs, (hmatch _).2 ⟨h, rfl⟩⟩⟩
    · obtain ⟨hagrees, rfl⟩ := (hmatch params).1 h
      exact ⟨Pattern.names_captured hagrees,
        Pattern.fill?_captured hnames hagrees⟩
  · intro path
    refine ⟨spells_fillText hvalues, fun earlier later hearlier => ?_⟩
    have hpath : pathOf path = path := pathOf_fillText hvalues hplain
    rw [hpath] at hearlier
    unfold Table.resolve
    rw [hpath]
    exact Table.resolvePath_of_first later hearlier
      (Definition.match?_fillText hnames hvalues)
  · intro t segs path path' suffix suffix' h h' hmarks hsuffix hsuffix'
    unfold Table.resolve
    rw [pathOf_append (fun c hc => hmarks c (List.mem_append_left _ hc))
        hsuffix,
      pathOf_append (fun c hc => hmarks c (List.mem_append_right _ hc))
        hsuffix']
    refine Table.resolvePath_said ?_ t
    rw [segments_eq_iff.2 (by rwa [String.toList_ofList]),
      segments_eq_iff.2 (by rwa [String.toList_ofList])]

/-- The rules of a policy are found on the console, under an id with an
accent and a percent sign; and so they are with more slashes and a
query. -/
theorem policy_rules_found :
    let r := page "PolicyRules" "/policy-groups/policies/:policyId/rules"
      "Rules"
    (Pattern.ofString r.pattern).names.Nodup
      ∧ consoleTable.resolve "/policy-groups/policies/é%20/rules"
        = .found ⟨r, "/policy-groups/policies/é%20/rules",
            [("policyId", "é%20")]⟩
      ∧ (consoleTable.resolve
          "//policy-groups//policies/é%20/rules/?page=2").said
        = .inl (r, [("policyId", "é%20")]) := by
  intro r
  have hnames : (Pattern.ofString r.pattern).names.Nodup := by decide +kernel
  have hvalues : ∀ name ∈ (Pattern.ofString r.pattern).names,
      IsValue "é%20" :=
    fun _ _ => ⟨by decide, by decide +kernel, by decide +kernel⟩
  have hpath : fillText (fun _ => "é%20") r.pattern
      = "/policy-groups/policies/é%20/rules" := by decide +kernel
  have htable : consoleTable
      = consoleTable.take 9 ++ r :: consoleTable.drop 10 := by decide +kernel
  have hnamed : (Pattern.ofString r.pattern).names = ["policyId"] := by
    decide +kernel
  obtain ⟨-, hfilled, -, hspelled⟩ := matching_inverts_filling hnames
  obtain ⟨hspells, hfound⟩ :=
    hfilled (by decide +kernel) (fun _ => "é%20") hvalues
  rw [hpath] at hspells hfound
  have hresolve := hfound (consoleTable.take 9) (consoleTable.drop 10)
    (by decide +kernel)
  rw [← htable, hnamed] at hresolve
  refine ⟨hnames, hresolve, ?_⟩
  have hslashes : segments "//policy-groups//policies/é%20/rules/"
      = (Pattern.ofString r.pattern).map
          (Pattern.filledWith fun _ => "é%20") := by decide +kernel
  have hsame := hspelled consoleTable _ _ _ [] "?page=2".toList hspells
    (segments_eq_iff.1 hslashes) (by decide +kernel) (.inl rfl)
    (.inr ⟨'?', "page=2".toList, .inl rfl, by decide +kernel⟩)
  have hplain : String.ofList
      ("/policy-groups/policies/é%20/rules".toList ++ [])
      = "/policy-groups/policies/é%20/rules" := by decide +kernel
  have hwhole : String.ofList
      ("//policy-groups//policies/é%20/rules/".toList ++ "?page=2".toList)
      = "//policy-groups//policies/é%20/rules/?page=2" := by decide +kernel
  rw [hplain, hwhole, hresolve] at hsame
  exact hsame.symm

/-- A path that was filled in where the pattern has a mark is not found by
its own pattern. -/
theorem marked_pattern_misses :
    let r := page "Answers" "/faq?/:topic" "Answers"
    (Pattern.ofString r.pattern).names.Nodup
      ∧ IsValue "login"
      ∧ fillText (fun _ => "login") r.pattern = "/faq?/login"
      ∧ Table.resolve [r] "/faq?/login" = .redirect notFoundPath :=
  ⟨by decide +kernel,
    ⟨by decide, by decide +kernel, by decide +kernel⟩,
    by decide +kernel, by decide +kernel⟩

end SecurityConsole.Route
