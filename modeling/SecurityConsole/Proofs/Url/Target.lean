/-
What stands on the request line tells the segments of the path.

No segment of an address that was read holds a slash or a question mark:
segments are cut at slashes, and question marks are escaped
(`Address.tidy_of_parse?`). So the target can be cut into the segments
again (`Address.segments_of_target`), and what stands behind its question
mark is the query (`Address.queryOfTarget?_target`). A text without a
question mark is read without a query (`Address.query_of_parse?`).
-/
import SecurityConsole.Proofs.Url.Names

namespace SecurityConsole.Url

open Text (cutAt)

-- =============================================================== segments

/-- Where the segments come from that a walk passes. -/
theorem mem_walk {seg : List Char} : ∀ {ss passed : List (List Char)},
    seg ∈ walk passed ss → seg ∈ passed ∨ seg = []
      ∨ ∃ s ∈ ss, seg = escapeChars pathPlain s := by
  intro ss
  induction ss with
  | nil => exact fun h => .inl (List.mem_reverse.1 h)
  | cons s rest ih =>
      intro passed h
      -- the walk goes on, or ends here with an empty segment
      have hmore : ∀ {passed' : List (List Char)}, seg ∈ walk passed' rest →
          (seg ∈ passed' → seg ∈ passed ∨ seg = escapeChars pathPlain s) →
            seg ∈ passed ∨ seg = []
              ∨ ∃ x ∈ s :: rest, seg = escapeChars pathPlain x := by
        intro passed' hseg hpassed
        rcases ih hseg with hmem | hnil | ⟨x, hx, heq⟩
        · rcases hpassed hmem with hmem | heq
          · exact .inl hmem
          · exact .inr (.inr ⟨s, List.mem_cons_self, heq⟩)
        · exact .inr (.inl hnil)
        · exact .inr (.inr ⟨x, List.mem_cons_of_mem s hx, heq⟩)
      have hlast : ∀ {passed' : List (List Char)},
          seg ∈ ([] :: passed').reverse → (seg ∈ passed' → seg ∈ passed) →
            seg ∈ passed ∨ seg = []
              ∨ ∃ x ∈ s :: rest, seg = escapeChars pathPlain x := by
        intro passed' hseg hpassed
        rcases List.mem_cons.1 (List.mem_reverse.1 hseg) with hnil | hmem
        · exact .inr (.inl hnil)
        · exact .inl (hpassed hmem)
      rw [walk] at h
      split at h
      · split at h
        · exact hlast h List.mem_of_mem_tail
        · exact hmore h fun hmem => .inl (List.mem_of_mem_tail hmem)
      · split at h
        · split at h
          · exact hlast h id
          · exact hmore h .inl
        · refine hmore h fun hmem => ?_
          rcases List.mem_cons.1 hmem with heq | hmem
          · exact .inr heq
          · exact .inl hmem

/-- Whether a segment can be told from what stands around it. -/
def Tidy (seg : List Char) : Prop := ∀ c ∈ seg, isSlash c = false ∧ c ≠ '?'

/-- A segment without slashes is written so that it can be told. -/
theorem tidy_written {s : List Char} (h : ∀ c ∈ s, isSlash c = false) :
    Tidy (escapeChars pathPlain s) := by
  intro c hc
  rcases of_mem_escapeChars hc with ⟨hmem, hkept⟩ | rfl | hhex
  · refine ⟨h c hmem, ?_⟩
    rintro rfl
    revert hkept
    decide
  · decide
  · refine ⟨?_, ?_⟩
    · refine Bool.eq_false_iff.2 fun hslash => ?_
      have hcases : c = '/' ∨ c = '\\' := by simpa [isSlash] using hslash
      rcases hcases with rfl | rfl <;> revert hhex <;> decide
    · rintro rfl
      revert hhex
      decide

/-- All segments of a path are tidy: they were cut at slashes, and what
they may not hold was escaped. -/
theorem tidy_pathSegments {path seg : List Char}
    (h : seg ∈ pathSegments path) : Tidy seg := by
  have hparts : ∀ {t : List Char}, seg ∈ walk [] (cutAt isSlash t) →
      Tidy seg := by
    intro t h
    rcases mem_walk h with hmem | rfl | ⟨part, hpart, rfl⟩
    · cases hmem
    · exact nofun
    · exact tidy_written fun c hc => Text.not_of_mem_cutAt hpart hc
  cases path with
  | nil => exact hparts (t := []) h
  | cons c rest => exact hparts h

-- ============================================================== addresses

theorem cleaned_sublist (s : List Char) : (cleaned s).Sublist s :=
  List.filter_sublist.trans
    ((dropPadding_sublist _).trans (List.dropWhile_sublist _))

theorem queryOf_of_not_mem {s : List Char} (h : '?' ∉ s) :
    queryOf s = none := by
  unfold queryOf
  split
  · exact absurd List.mem_cons_self h
  · rfl

namespace Address

/-- What stands behind the scheme of an address is a part of it. -/
theorem afterScheme?_of_parse? {s : String} {a : Address}
    (h : parse? s = some a) :
    ∃ secure behind, behind.Sublist s.toList
      ∧ afterScheme? secure behind = some a := by
  have hbehind : (((cleaned s.toList).dropWhile (· ≠ ':')).drop 1).Sublist
      s.toList :=
    (List.drop_sublist _ _).trans
      ((List.dropWhile_sublist _).trans (cleaned_sublist _))
  unfold parse? at h
  simp only at h
  split at h
  · split at h
    · exact ⟨_, _, hbehind, h⟩
    · split at h
      · exact ⟨_, _, hbehind, h⟩
      · cases h
  · cases h

/-- The segments of an address that was read can be told. -/
theorem tidy_of_parse? {s : String} {a : Address} (h : parse? s = some a) :
    ∀ seg ∈ a.segments, Tidy seg.toList := by
  obtain ⟨secure, behind, -, ha⟩ := afterScheme?_of_parse? h
  obtain ⟨_, -, rfl⟩ := Option.map_eq_some_iff.1 ha
  intro seg hseg
  obtain ⟨chars, hchars, rfl⟩ := List.mem_map.1 hseg
  rw [String.toList_ofList]
  exact tidy_pathSegments hchars

/-- Without a question mark there is no query. -/
theorem query_of_parse? {s : String} {a : Address} (hs : '?' ∉ s.toList)
    (h : parse? s = some a) : a.query = none := by
  obtain ⟨secure, behind, hbehind, ha⟩ := afterScheme?_of_parse? h
  obtain ⟨_, -, rfl⟩ := Option.map_eq_some_iff.1 ha
  refine Option.map_eq_none_iff.2 (queryOf_of_not_mem fun hmem => hs ?_)
  exact hbehind.subset ((List.dropWhile_sublist _).subset
    ((List.dropWhile_sublist _).subset ((List.dropWhile_sublist _).subset
      hmem)))

-- ================================================================ targets

/-- What stands behind the first question mark of a target. -/
def queryOfTarget? (target : String) : Option String :=
  match target.toList.dropWhile (· ≠ '?') with
  | [] => none
  | _ :: query => some (String.ofList query)

/-- The path on the request line is put together from the segments. -/
theorem toList_path (a : Address) :
    a.path.toList = pathText (a.segments.map String.toList) := by
  have hfold : ∀ (ss : List String) (front : String),
      (ss.foldl (fun acc s => acc ++ "/" ++ s) front).toList
        = front.toList ++ pathText (ss.map String.toList) := by
    intro ss
    induction ss with
    | nil => exact fun front => (List.append_nil _).symm
    | cons s ss ih =>
        intro front
        rw [List.foldl_cons, ih, List.map_cons, pathText_cons]
        simp
  exact hfold a.segments ""

/-- Paths of segments that can be told are told apart. -/
theorem pathText_injective {ss ts : List (List Char)}
    (hs : ∀ s ∈ ss, Tidy s) (ht : ∀ t ∈ ts, Tidy t)
    (h : pathText ss = pathText ts) : ss = ts := by
  match ss, ts, h with
  | [], [], _ => rfl
  | s :: ss, t :: ts, h =>
      rw [pathText_cons, pathText_cons] at h
      have hcut := congrArg (cutAt isSlash) (List.cons.inj h).2
      rwa [cutAt_pathText fun x hx c hc => (hs x hx c hc).1,
        cutAt_pathText fun x hx c hc => (ht x hx c hc).1] at hcut

/-- No question mark stands in the path. -/
theorem plain_path {a : Address}
    (ha : ∀ seg ∈ a.segments, Tidy seg.toList) :
    ∀ c ∈ pathText (a.segments.map String.toList), decide (c ≠ '?') = true := by
  intro c hc
  rcases mem_pathText hc with rfl | ⟨s, hs, hc⟩
  · rfl
  · obtain ⟨seg, hseg, rfl⟩ := List.mem_map.1 hs
    exact decide_eq_true (ha seg hseg c hc).2

/-- The target is the path, and the query behind a question mark. -/
theorem toList_target (a : Address) :
    a.target.toList = pathText (a.segments.map String.toList)
      ++ (a.query.elim [] fun q => '?' :: q.toList) := by
  unfold target
  cases a.query with
  | none => exact (toList_path a).trans (List.append_nil _).symm
  | some q => simp [toList_path]

/-- The path is what stands in front of the question mark. -/
theorem takeWhile_target {a : Address}
    (ha : ∀ seg ∈ a.segments, Tidy seg.toList) :
    a.target.toList.takeWhile (· ≠ '?')
      = pathText (a.segments.map String.toList) := by
  have hbehind : (a.query.elim [] fun q => '?' :: q.toList).takeWhile
      (· ≠ '?') = [] := by
    cases a.query <;> rfl
  rw [toList_target, List.takeWhile_append_of_pos (plain_path ha), hbehind,
    List.append_nil]

/-- The query is what stands behind the question mark. -/
theorem queryOfTarget?_target {a : Address}
    (ha : ∀ seg ∈ a.segments, Tidy seg.toList) :
    queryOfTarget? a.target = a.query := by
  unfold queryOfTarget?
  rw [toList_target, List.dropWhile_append_of_pos (plain_path ha)]
  cases a.query with
  | none => rfl
  | some q => exact congrArg some String.ofList_toList

/-- There is a question mark just when there is a query. -/
theorem mem_target_iff {a : Address}
    (ha : ∀ seg ∈ a.segments, Tidy seg.toList) :
    '?' ∈ a.target.toList ↔ a.query.isSome = true := by
  have hpath : '?' ∉ pathText (a.segments.map String.toList) :=
    fun hmem => of_decide_eq_true (plain_path ha '?' hmem) rfl
  rw [toList_target, List.mem_append, or_iff_right hpath]
  cases a.query with
  | none => exact ⟨nofun, nofun⟩
  | some q => exact ⟨fun _ => rfl, fun _ => List.mem_cons_self⟩

/-- Addresses that were read with one target have the same segments. -/
theorem segments_of_target {a b : Address}
    (ha : ∀ seg ∈ a.segments, Tidy seg.toList)
    (hb : ∀ seg ∈ b.segments, Tidy seg.toList) (h : a.target = b.target) :
    a.segments = b.segments := by
  have hchars := congrArg (fun s => s.toList.takeWhile (· ≠ '?')) h
  simp only [takeWhile_target ha, takeWhile_target hb] at hchars
  refine (List.map_inj_right fun _ _ => String.toList_inj.1).1
    (pathText_injective ?_ ?_ hchars)
  · exact List.forall_mem_map.2 ha
  · exact List.forall_mem_map.2 hb

end Address

end SecurityConsole.Url
