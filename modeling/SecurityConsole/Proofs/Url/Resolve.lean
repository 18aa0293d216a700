/-
What a text means behind the address of a directory.

An address that ends in a slash is a directory, if no query and no
fragment begins before. A text behind it is cleaned at its end, and its
path is walked along from where the directory has led to
(`Address.parse?_append`), since a walk can be stopped anywhere before its
end (`walk_append`).
-/
import SecurityConsole.Url.Address
import SecurityConsole.Proofs.Url.Form

namespace SecurityConsole.Url

open Text (cutAt)

-- ================================================================ walking

/-- One step along a path that goes on. -/
def pass (passed : List (List Char)) (s : List Char) : List (List Char) :=
  if isAbove s then passed.tail
  else if isHere s then passed
  else escapeChars pathPlain s :: passed

/-- A walk can be stopped anywhere before its end. -/
theorem walk_append {xs ys : List (List Char)} (h : ys ≠ []) :
    ∀ passed, walk passed (xs ++ ys) = walk (xs.foldl pass passed) ys := by
  induction xs with
  | nil => exact fun _ => rfl
  | cons s xs ih =>
      intro passed
      have hmore : (xs ++ ys).isEmpty = false := by
        rw [List.isEmpty_eq_false_iff]
        exact fun heq => h (List.append_eq_nil_iff.1 heq).2
      rw [List.foldl_cons, List.cons_append, walk, hmore, ← ih]
      unfold pass
      split
      · rfl
      · split <;> rfl

/-- Where a path has led to before its last slash. -/
def ledTo : List Char → List (List Char)
  | [] => []
  | c :: rest =>
    (cutAt isSlash (if isSlash c then rest else c :: rest)).foldl pass []

/-- Behind a slash, a path goes on from where it has led to. -/
theorem pathSegments_append (path t : List Char) :
    pathSegments (path ++ '/' :: t) = walk (ledTo path) (cutAt isSlash t) := by
  cases path with
  | nil => rfl
  | cons c rest =>
      have hcut : ∀ s, cutAt isSlash (s ++ '/' :: t)
          = cutAt isSlash s ++ cutAt isSlash t :=
        fun s => Text.cutAt_append rfl s t
      rw [List.cons_append, pathSegments, ledTo]
      by_cases hc : isSlash c = true
      · rw [if_pos hc, if_pos hc, hcut, walk_append (Text.cutAt_ne_nil _ _)]
      · rw [if_neg hc, if_neg hc, ← List.cons_append, hcut,
          walk_append (Text.cutAt_ne_nil _ _)]

-- =============================================================== cleaning

/-- Whether a character is dropped from an address wherever it stands. -/
def isBreak (c : Char) : Bool := c = '\t' || c = '\n' || c = '\r'

/-- What is left of the end of an address. -/
def cleanedEnd (t : List Char) : List Char :=
  (t.reverse.dropWhile isPadding).reverse.filter (!isBreak ·)

section
variable {α : Type} {p : α → Bool} {x : α}

/-- What is dropped up to a mark does not depend on what is behind the
mark. -/
theorem dropWhile_stops (h : p x = false) (s t : List α) :
    (s ++ x :: t).dropWhile p = s.dropWhile p ++ x :: t := by
  induction s with
  | nil => simp [h]
  | cons y s ih =>
      cases hy : p y with
      | true => simp [hy, ih]
      | false => simp [hy]

theorem takeWhile_stops (h : p x = false) (s t : List α) :
    (s ++ x :: t).takeWhile p = s.takeWhile p := by
  induction s with
  | nil => simp [h]
  | cons y s ih =>
      cases hy : p y with
      | true => simp [hy, ih]
      | false => simp [hy]

end

/-- What stands around a slash is cleaned by itself. -/
theorem cleaned_append (s t : List Char) :
    cleaned (s ++ '/' :: t)
      = (s.dropWhile isPadding).filter (!isBreak ·)
        ++ '/' :: cleanedEnd t := by
  have hslash : isPadding '/' = false := rfl
  have hfilter : (fun c : Char => decide (c ≠ '\t' ∧ c ≠ '\n' ∧ c ≠ '\r'))
      = (!isBreak ·) := by
    funext c
    simp [isBreak, Bool.and_assoc]
  unfold cleaned cleanedEnd
  rw [dropWhile_stops hslash, List.reverse_append, List.reverse_cons,
    List.append_assoc, List.singleton_append, dropWhile_stops hslash,
    List.reverse_append, List.reverse_cons, List.reverse_reverse, hfilter]
  simp [isBreak]

-- ============================================================ directories

namespace Address

/-- The address of a text in a directory. -/
def child (root : Address) (t : List Char) : Address :=
  { root with
    segments := (walk (root.segments.dropLast.map String.toList).reverse
      (cutAt isSlash (t.takeWhile (!endsPath ·)))).map String.ofList
    query := (queryOf (t.dropWhile (!endsPath ·))).map String.ofList }

/-- The segments of a directory are where it leads to. -/
theorem dropLast_walk (passed : List (List Char)) :
    (((walk passed [[]]).map String.ofList).dropLast.map
      String.toList).reverse = passed := by
  have hwalk : walk passed [[]] = passed.reverse ++ [[]] := by
    rw [walk, if_neg (by decide), if_neg (by decide), walk]
    exact List.reverse_cons
  rw [hwalk, List.map_append, List.map_singleton, List.dropLast_concat,
    List.map_map, List.map_reverse, List.reverse_reverse]
  simp [Function.comp_def]

/-- Whether a character belongs to an authority. -/
def inAuthority (c : Char) : Bool := !(isSlash c || endsPath c)

/-- How an address is read whose authority lies before a slash. -/
theorem afterScheme?_stops {secure : Bool} {base : List Char}
    (hplain : ∀ c ∈ base, endsPath c = false)
    (hhost : base.dropWhile isSlash ≠ []) (t : List Char) :
    afterScheme? secure (base ++ '/' :: t)
      = (hostPort? (if secure then 443 else 80) (behindUser
          ((base.dropWhile isSlash).takeWhile inAuthority))).map
        fun (host, port) =>
          { secure, host := String.ofList host, port
            segments := (walk
              (ledTo ((base.dropWhile isSlash).dropWhile inAuthority))
              (cutAt isSlash (t.takeWhile (!endsPath ·)))).map String.ofList
            query := (queryOf (t.dropWhile (!endsPath ·))).map
              String.ofList } := by
  let authority := base.dropWhile isSlash
  have hslash : inAuthority '/' = false := rfl
  have hbase : (base ++ '/' :: t).dropWhile isSlash
      = authority ++ '/' :: t := by
    rw [List.dropWhile_append, List.isEmpty_eq_false_iff.2 hhost]
    rfl
  have hhosts := takeWhile_stops hslash authority t
  have hrest := dropWhile_stops hslash authority t
  have hpath : ∀ c ∈ authority.dropWhile inAuthority,
      (!endsPath c) = true := by
    intro c hc
    rw [hplain c ((List.dropWhile_sublist _).mem
      ((List.dropWhile_sublist _).mem hc))]
    rfl
  have hkept : (authority.dropWhile inAuthority ++ '/' :: t).takeWhile
        (!endsPath ·)
      = authority.dropWhile inAuthority
        ++ '/' :: t.takeWhile (!endsPath ·) :=
    List.takeWhile_append_of_pos hpath
  have hbehind : (authority.dropWhile inAuthority ++ '/' :: t).dropWhile
        (!endsPath ·)
      = t.dropWhile (!endsPath ·) :=
    List.dropWhile_append_of_pos hpath
  unfold inAuthority at hhosts hrest hkept hbehind
  unfold afterScheme?
  simp only
  rw [hbase, hhosts, hrest, hkept, hbehind, pathSegments_append]
  rfl

/-- Behind the scheme: what follows the slash of a directory. -/
theorem afterScheme?_append {secure : Bool} {base : List Char}
    {root : Address} (hplain : ∀ c ∈ base, endsPath c = false)
    (h : afterScheme? secure (base ++ ['/']) = some root) (t : List Char) :
    afterScheme? secure (base ++ '/' :: t) = some (root.child t) := by
  -- a directory whose base is all slashes would have no host
  have hhost : base.dropWhile isSlash ≠ [] := by
    intro hnil
    have hbase : (base ++ ['/']).dropWhile isSlash = [] := by
      rw [List.dropWhile_append, hnil]
      rfl
    unfold afterScheme? at h
    simp only [hbase] at h
    cases h
  rw [afterScheme?_stops hplain hhost] at h ⊢
  obtain ⟨⟨host, port⟩, hhost, rfl⟩ := Option.map_eq_some_iff.1 h
  rw [hhost]
  show some _ = some _
  unfold child
  simp only
  rw [show cutAt isSlash (([] : List Char).takeWhile (!endsPath ·)) = [[]]
    from rfl, dropLast_walk]

/-- What a clean address is read as. -/
def ofClean? (s : List Char) : Option Address :=
  let scheme := (s.takeWhile (· ≠ ':')).map Char.toLower
  let behind := (s.dropWhile (· ≠ ':')).drop 1
  if ':' ∈ s then
    if scheme = ['h', 't', 't', 'p'] then afterScheme? false behind
    else if scheme = ['h', 't', 't', 'p', 's'] then afterScheme? true behind
    else none
  else none

/-- A clean text behind a directory. The base has the scheme and the
host, so reading goes on in the path, and only what was walked there
differs. -/
theorem ofClean?_append {base : List Char} {root : Address}
    (hplain : ∀ c ∈ base, endsPath c = false)
    (h : ofClean? (base ++ ['/']) = some root) (t : List Char) :
    ofClean? (base ++ '/' :: t) = some (root.child t) := by
  -- the scheme ends in the base, not in what follows it
  have hcolon : ':' ∈ base := by
    by_cases hmem : ':' ∈ base
    · exact hmem
    · have hnot : ':' ∉ base ++ ['/'] := by simpa using hmem
      unfold ofClean? at h
      simp only [if_neg hnot] at h
      cases h
  obtain ⟨scheme, behind, rfl, hscheme⟩ := List.eq_append_cons_of_mem hcolon
  have hall : ∀ c ∈ scheme, decide (c ≠ ':') = true := by
    intro c hc
    refine decide_eq_true ?_
    rintro rfl
    exact hscheme hc
  have hbehind : ∀ c ∈ behind, endsPath c = false :=
    fun c hc => hplain c (by simp [hc])
  have hread : ∀ t, ofClean? ((scheme ++ ':' :: behind) ++ '/' :: t)
      = if scheme.map Char.toLower = ['h', 't', 't', 'p'] then
          afterScheme? false (behind ++ '/' :: t)
        else if scheme.map Char.toLower = ['h', 't', 't', 'p', 's'] then
          afterScheme? true (behind ++ '/' :: t)
        else none := by
    intro t
    have hmem : ':' ∈ (scheme ++ ':' :: behind) ++ '/' :: t := by simp
    unfold ofClean?
    simp only [if_pos hmem]
    rw [List.append_assoc, List.takeWhile_append_of_pos hall,
      List.dropWhile_append_of_pos hall]
    simp
  rw [hread] at h ⊢
  split
  · rename_i hhttp
    rw [if_pos hhttp] at h
    exact afterScheme?_append hbehind h t
  · rename_i hhttp
    rw [if_neg hhttp] at h
    split
    · rename_i hhttps
      rw [if_pos hhttps] at h
      exact afterScheme?_append hbehind h t
    · rename_i hhttps
      rw [if_neg hhttps] at h
      cases h

/-- What stands behind the address of a directory is read in that
directory. -/
theorem parse?_append {base : String} {root : Address}
    (hplain : ∀ c ∈ base.toList, endsPath c = false)
    (h : parse? (base ++ "/") = some root) (t : List Char) :
    parse? (String.ofList (base.toList ++ '/' :: t))
      = some (root.child (cleanedEnd t)) := by
  have hread : ∀ t, parse? (String.ofList (base.toList ++ '/' :: t))
      = ofClean? ((base.toList.dropWhile isPadding).filter (!isBreak ·)
        ++ '/' :: cleanedEnd t) := by
    intro t
    rw [← cleaned_append, parse?, String.toList_ofList]
    rfl
  have hslash : base ++ "/" = String.ofList (base.toList ++ '/' :: []) := by
    rw [← String.ofList_toList (s := base ++ "/"), String.toList_append]
    rfl
  rw [hslash, hread] at h
  rw [hread]
  refine ofClean?_append (fun c hc => hplain c ?_) h _
  exact (List.dropWhile_sublist _).mem (List.mem_filter.1 hc).1

end Address

end SecurityConsole.Url
