/-
How paths spell segments.

A path is cut at every slash, and empty parts are thrown away; so how many
slashes stand between two segments, in front of the first or behind the
last makes no difference. `Spells` says this without cutting anything, and
is what `segments` computes (`segments_eq_iff`): a path spells just one
list of segments (`Spells.unique`), and the same one in all its spellings.
-/
import SecurityConsole.Route.Pattern

namespace SecurityConsole.Route

open Text (cutAt)

-- ============================================================== spellings

/-- Whether a text is a segment: not empty, and without a slash. -/
structure IsSegment (part : List Char) : Prop where
  nonempty : part ≠ []
  slashless : '/' ∉ part

/-- Whether a path spells segments: one behind the other, with a slash
between any two, and as many more slashes as one likes. -/
inductive Spells : List Char → List String → Prop
  | nothing : Spells [] []
  | slash {path : List Char} {segs : List String} :
      Spells path segs → Spells ('/' :: path) segs
  | last {part : List Char} :
      IsSegment part → Spells part [String.ofList part]
  | cons {part path : List Char} {segs : List String} :
      IsSegment part → Spells path segs →
        Spells (part ++ '/' :: path) (String.ofList part :: segs)

/-- The parts of a path that are not empty. -/
def keptParts (path : List Char) : List (List Char) :=
  (cutAt (· = '/') path).filter (!·.isEmpty)

theorem segments_eq (path : String) :
    segments path = (keptParts path.toList).map String.ofList := rfl

/-- A slash in front adds an empty part, which is thrown away. -/
theorem keptParts_slash (path : List Char) :
    keptParts ('/' :: path) = keptParts path := by
  unfold keptParts
  rw [cutAt, if_pos (by decide)]
  rfl

theorem cutAt_of_isSegment {part : List Char} (h : IsSegment part) :
    cutAt (· = '/') part = [part] :=
  Text.cutAt_of_none fun _ hc =>
    decide_eq_false fun hslash => h.slashless (hslash ▸ hc)

theorem filter_isSegment {part : List Char} (h : IsSegment part)
    (rest : List (List Char)) :
    (part :: rest).filter (!·.isEmpty)
      = part :: rest.filter (!·.isEmpty) :=
  List.filter_cons_of_pos (by simpa using h.nonempty)

/-- A segment by itself is the one part. -/
theorem keptParts_last {part : List Char} (h : IsSegment part) :
    keptParts part = [part] := by
  unfold keptParts
  rw [cutAt_of_isSegment h, filter_isSegment h]
  rfl

/-- A segment before a slash is the first part. -/
theorem keptParts_cons {part : List Char} (h : IsSegment part)
    (path : List Char) :
    keptParts (part ++ '/' :: path) = part :: keptParts path := by
  unfold keptParts
  rw [Text.cutAt_append (by decide), cutAt_of_isSegment h]
  exact filter_isSegment h _

/-- What a path spells are its parts that are not empty. -/
theorem Spells.keptParts {path : List Char} {segs : List String}
    (h : Spells path segs) : (keptParts path).map String.ofList = segs := by
  induction h with
  | nothing => rfl
  | slash _ ih => rw [keptParts_slash, ih]
  | last hpart => rw [keptParts_last hpart, List.map_singleton]
  | cons hpart _ ih => rw [keptParts_cons hpart, List.map_cons, ih]

-- =================================================================== parts

/-- Parts with slashes between them. -/
def joinParts (parts : List (List Char)) : List Char :=
  ['/'].intercalate parts

theorem joinParts_singleton (part : List Char) : joinParts [part] = part :=
  List.intercalate_singleton

theorem joinParts_cons_cons (part next : List Char)
    (rest : List (List Char)) :
    joinParts (part :: next :: rest)
      = part ++ '/' :: joinParts (next :: rest) := by
  unfold joinParts
  rw [List.intercalate_cons_cons, List.append_assoc]
  rfl

/-- A character of joined parts is a slash, or one of a part. -/
theorem mem_joinParts {parts : List (List Char)} {c : Char}
    (h : c ∈ joinParts parts) : c = '/' ∨ ∃ part ∈ parts, c ∈ part := by
  induction parts with
  | nil => cases h
  | cons part rest ih =>
      cases rest with
      | nil =>
          rw [joinParts_singleton] at h
          exact .inr ⟨part, List.mem_cons_self, h⟩
      | cons next rest =>
          rw [joinParts_cons_cons, List.mem_append, List.mem_cons] at h
          rcases h with h | rfl | h
          · exact .inr ⟨part, List.mem_cons_self, h⟩
          · exact .inl rfl
          · refine (ih h).imp_right ?_
            rintro ⟨p, hp, hc⟩
            exact ⟨p, List.mem_cons_of_mem part hp, hc⟩

/-- A path that was cut is put together again. -/
theorem joinParts_cutAt (path : List Char) :
    joinParts (cutAt (· = '/') path) = path := by
  induction path with
  | nil => rfl
  | cons c path ih =>
      obtain ⟨part, rest, hcut⟩ :=
        List.exists_cons_of_ne_nil (Text.cutAt_ne_nil (· = '/') path)
      rw [hcut] at ih
      by_cases hc : c = '/'
      · rw [cutAt, if_pos (decide_eq_true hc), hcut, joinParts_cons_cons, ih,
          hc]
        rfl
      · rw [cutAt, if_neg (by simpa using hc), hcut]
        cases rest with
        | nil => exact congrArg (c :: ·) ih
        | cons next rest =>
            rw [joinParts_cons_cons] at ih ⊢
            exact congrArg (c :: ·) ih

/-- Parts with slashes between them spell those that are not empty. -/
theorem spells_joinParts (parts : List (List Char))
    (h : ∀ part ∈ parts, '/' ∉ part) :
    Spells (joinParts parts)
      ((parts.filter (!·.isEmpty)).map String.ofList) := by
  induction parts with
  | nil => exact .nothing
  | cons part rest ih =>
      have hpart := h part List.mem_cons_self
      have hrest := ih fun p hp => h p (List.mem_cons_of_mem part hp)
      cases part with
      | nil =>
          -- an empty part is a slash more
          cases rest with
          | nil => exact .nothing
          | cons next rest =>
              rw [joinParts_cons_cons]
              exact .slash hrest
      | cons c cs =>
          have hseg : IsSegment (c :: cs) := ⟨List.cons_ne_nil c cs, hpart⟩
          rw [filter_isSegment hseg]
          cases rest with
          | nil =>
              rw [joinParts_singleton]
              exact .last hseg
          | cons next rest =>
              rw [joinParts_cons_cons]
              exact .cons hseg hrest

theorem slashless_of_mem_cutAt {path part : List Char}
    (h : part ∈ cutAt (· = '/') path) : '/' ∉ part := by
  intro hslash
  have hnot := Text.not_of_mem_cutAt h hslash
  cases hnot

/-- Every path spells its segments. -/
theorem spells_segments (path : String) :
    Spells path.toList (segments path) := by
  have h := spells_joinParts (cutAt (· = '/') path.toList)
    fun _ hpart => slashless_of_mem_cutAt hpart
  rwa [joinParts_cutAt] at h

/-- The segments of a path are what it spells. -/
theorem segments_eq_iff {path : String} {segs : List String} :
    segments path = segs ↔ Spells path.toList segs :=
  ⟨fun h => h ▸ spells_segments path, Spells.keptParts⟩

/-- A path spells just one list of segments. -/
theorem Spells.unique {path : List Char} {segs segs' : List String}
    (h : Spells path segs) (h' : Spells path segs') : segs = segs' :=
  h.keptParts.symm.trans h'.keptParts

/-- The characters of what is spelled stand in the path. -/
theorem Spells.mem {path : List Char} {segs : List String} {s : String}
    {c : Char} (h : Spells path segs) (hs : s ∈ segs) (hc : c ∈ s.toList) :
    c ∈ path := by
  induction h with
  | nothing => cases hs
  | slash _ ih => exact List.mem_cons_of_mem _ (ih hs)
  | last _ =>
      obtain rfl := List.mem_singleton.1 hs
      rwa [String.toList_ofList] at hc
  | cons _ _ ih =>
      rcases List.mem_cons.1 hs with rfl | hs
      · rw [String.toList_ofList] at hc
        exact List.mem_append_left _ hc
      · exact List.mem_append_right _ (List.mem_cons_of_mem _ (ih hs))

-- ============================================================== locations

/-- Whether a character ends the path of a location. -/
def IsMark (c : Char) : Prop := c = '?' ∨ c = '#'

/-- Whether a text holds no character that ends the path of a location. -/
def Unmarked (chars : List Char) : Prop := ∀ c ∈ chars, ¬ IsMark c

instance : DecidablePred Unmarked := fun chars =>
  decidable_of_iff ('?' ∉ chars ∧ '#' ∉ chars)
    ⟨fun h _ hc hmark => hmark.elim (fun he => h.1 (he ▸ hc))
        fun he => h.2 (he ▸ hc),
      fun h => ⟨fun hc => h _ hc (.inl rfl), fun hc => h _ hc (.inr rfl)⟩⟩

/-- Whether a text can follow the path of a location: nothing, or a query
or fragment. -/
def IsSuffix (suffix : List Char) : Prop :=
  suffix = [] ∨ ∃ mark rest, IsMark mark ∧ suffix = mark :: rest

/-- What stands behind the path of a location does not count. -/
theorem pathOf_append {path suffix : List Char}
    (hpath : Unmarked path) (hsuffix : IsSuffix suffix) :
    pathOf (String.ofList (path ++ suffix)) = String.ofList path := by
  unfold pathOf
  rw [String.toList_ofList, List.takeWhile_append_of_pos fun c hc =>
    decide_eq_true (not_or.1 (hpath c hc))]
  rcases hsuffix with rfl | ⟨mark, rest, hmark, rfl⟩
  · rw [List.takeWhile_nil, List.append_nil]
  · have hends : ¬ (mark ≠ '?' ∧ mark ≠ '#') := fun h =>
      hmark.elim h.1 h.2
    rw [List.takeWhile_cons_of_neg (by simpa using hends), List.append_nil]

/-- The path of a location holds no mark. -/
theorem unmarked_pathOf (location : String) :
    Unmarked (pathOf location).toList := by
  unfold pathOf
  rw [String.toList_ofList]
  intro c hc hmark
  have hnot := of_decide_eq_true (List.all_eq_true.1 List.all_takeWhile c hc)
  exact hmark.elim hnot.1 hnot.2

/-- A location without a mark is all path. -/
theorem pathOf_of_unmarked {path : List Char} (hpath : Unmarked path) :
    pathOf (String.ofList path) = String.ofList path := by
  have h := pathOf_append hpath (.inl rfl)
  rwa [List.append_nil] at h

end SecurityConsole.Route
