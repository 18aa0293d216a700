/-
Joining the parts of an address, whatever slashes they bring.

Every text is a core with slashes around it, and the parts of an address
are joined by their cores: the address that paths are joined to is the core
of the server, and one slash and the core of the shared path if there is
one (`joinBase_cores`). So slashes at the joints make no difference, the
address ends in none, and joining nothing more to it leaves it as it is.
-/
import SecurityConsole.Url.Join

namespace SecurityConsole.Url

-- ================================================================ slashes

/-- So many slashes. -/
def slashes (n : Nat) : List Char := List.replicate n '/'

theorem all_slashes {n : Nat} {c : Char} (h : c ∈ slashes n) :
    decide (c = '/') = true :=
  decide_eq_true (List.eq_of_mem_replicate h)

theorem reverse_slashes (n : Nat) : (slashes n).reverse = slashes n :=
  List.reverse_replicate

/-- Characters that are slashes, one and all. -/
theorem eq_slashes {s : List Char} (h : ∀ c ∈ s, c = '/') :
    s = slashes s.length :=
  List.eq_replicate_iff.2 ⟨rfl, h⟩

-- =============================================================== trimming

/-- Slashes in front of a text are trimmed with its own. -/
theorem trimStart_slashes (n : Nat) (s : List Char) :
    trimStart (slashes n ++ s) = trimStart s :=
  List.dropWhile_append_of_pos fun _ => all_slashes

/-- So are slashes behind it. -/
theorem trimEnd_slashes (s : List Char) (n : Nat) :
    trimEnd (s ++ slashes n) = trimEnd s := by
  unfold trimEnd
  rw [List.reverse_append, reverse_slashes,
    List.dropWhile_append_of_pos fun _ => all_slashes]

/-- A text is slashes and what is left without them. -/
theorem exists_trimStart (s : List Char) :
    ∃ n, s = slashes n ++ trimStart s := by
  refine ⟨(s.takeWhile (· = '/')).length, ?_⟩
  rw [← eq_slashes fun c hc => ?_]
  · exact List.takeWhile_append_dropWhile.symm
  · exact of_decide_eq_true (List.all_eq_true.1 List.all_takeWhile c hc)

/-- A text is what is left of it when its end is trimmed, and
slashes. -/
theorem exists_trimEnd (s : List Char) :
    ∃ n, s = trimEnd s ++ slashes n := by
  obtain ⟨n, hn⟩ := exists_trimStart s.reverse
  refine ⟨n, ?_⟩
  calc s = s.reverse.reverse := s.reverse_reverse.symm
    _ = (slashes n ++ trimStart s.reverse).reverse := by rw [← hn]
    _ = trimEnd s ++ slashes n := by
        rw [List.reverse_append, reverse_slashes]
        rfl

-- ================================================================= cores

/-- Whether a text begins with no slash. -/
def BeginsBare (s : List Char) : Prop := s.head? ≠ some '/'

/-- Whether a text ends in no slash. -/
def EndsBare (s : List Char) : Prop := s.getLast? ≠ some '/'

/-- Behind all slashes at the beginning there is none. -/
theorem beginsBare_trimStart (s : List Char) : BeginsBare (trimStart s) := by
  intro h
  have hnot := List.head?_dropWhile_not (· = '/') s
  unfold trimStart at h
  rw [h] at hnot
  simp at hnot

/-- A text that begins without one has nothing to trim. -/
theorem trimStart_of_bare {s : List Char} (h : BeginsBare s) :
    trimStart s = s := by
  cases s with
  | nil => rfl
  | cons c s =>
      refine List.dropWhile_cons_of_neg fun hc => h ?_
      rw [of_decide_eq_true hc]
      rfl

theorem endsBare_iff {s : List Char} : EndsBare s ↔ BeginsBare s.reverse := by
  unfold EndsBare BeginsBare
  rw [List.head?_reverse]

/-- Before all slashes at the end there is none. -/
theorem endsBare_trimEnd (s : List Char) : EndsBare (trimEnd s) := by
  rw [endsBare_iff]
  unfold trimEnd
  rw [List.reverse_reverse]
  exact beginsBare_trimStart s.reverse

/-- A text that ends without one is left as it is. -/
theorem trimEnd_of_bare {s : List Char} (h : EndsBare s) :
    trimEnd s = s := by
  have hreverse : trimStart s.reverse = s.reverse :=
    trimStart_of_bare (endsBare_iff.1 h)
  show (trimStart s.reverse).reverse = s
  rw [hreverse, List.reverse_reverse]

/-- A text without the slashes around it. -/
def core (s : List Char) : List Char := trimEnd (trimStart s)

/-- Slashes around a text leave its core. A text of nothing but slashes
has an empty one. -/
theorem core_slashes (m k : Nat) (s : List Char) :
    core (slashes m ++ s ++ slashes k) = core s := by
  unfold core
  rw [List.append_assoc, trimStart_slashes]
  obtain ⟨i, hi⟩ := exists_trimStart s
  cases htrim : trimStart s with
  | nil =>
      -- there is nothing between the slashes
      rw [hi, htrim, List.append_nil, trimStart_slashes]
      have hnone := trimStart_slashes k []
      rw [List.append_nil] at hnone
      rw [hnone]
      rfl
  | cons c rest =>
      have hbare : BeginsBare (c :: rest) := htrim ▸ beginsBare_trimStart s
      have hmore : BeginsBare (c :: rest ++ slashes k) := hbare
      rw [hi, htrim, List.append_assoc, trimStart_slashes,
        trimStart_of_bare hmore, trimEnd_slashes]

theorem endsBare_core (s : List Char) : EndsBare (core s) :=
  endsBare_trimEnd _

/-- The core begins without a slash: trimming the end does not uncover
one. -/
theorem beginsBare_core (s : List Char) : BeginsBare (core s) := by
  intro h
  obtain ⟨n, hn⟩ := exists_trimEnd (trimStart s)
  refine beginsBare_trimStart s ?_
  rw [hn, List.head?_append]
  show (core s).head?.or _ = some '/'
  rw [h]
  rfl

/-- A text is its core with slashes around it. -/
theorem exists_core (s : List Char) :
    ∃ b c, s = slashes b ++ core s ++ slashes c := by
  obtain ⟨b, hb⟩ := exists_trimStart s
  obtain ⟨c, hc⟩ := exists_trimEnd (trimStart s)
  refine ⟨b, c, ?_⟩
  rw [List.append_assoc]
  show s = slashes b ++ (trimEnd (trimStart s) ++ slashes c)
  rw [← hc, ← hb]

-- ============================================================= addresses

/-- The address that paths are joined to, by the cores of its parts. -/
def joined (server shared : List Char) : List Char :=
  if shared = [] then server else server ++ '/' :: shared

/-- Parts that end without a slash are joined to one that does so
too. -/
theorem endsBare_joined {server shared : List Char} (hs : EndsBare server)
    (hp : EndsBare shared) : EndsBare (joined server shared) := by
  unfold joined
  split
  · exact hs
  · rename_i hne
    unfold EndsBare at hp ⊢
    cases hlast : shared.getLast? with
    | none => exact absurd (List.getLast?_eq_none_iff.1 hlast) hne
    | some c =>
        rw [List.getLast?_append, List.getLast?_cons, hlast]
        rw [hlast] at hp
        exact hp

/-- Parts are joined by their cores. -/
theorem joinBase_cores (server shared : String) :
    (joinBase server shared).toList
      = joined (trimEnd server.toList) (core shared.toList) := by
  have hs := endsBare_trimEnd server.toList
  have hp := endsBare_core shared.toList
  unfold joinBase
  rw [String.toList_ofList]
  show trimEnd (trimEnd server.toList ++ '/' :: core shared.toList) = _
  by_cases hnone : core shared.toList = []
  · rw [hnone, joined, if_pos rfl]
    exact (trimEnd_slashes _ 1).trans (trimEnd_of_bare hs)
  · have hjoined := endsBare_joined hs hp
    rw [joined, if_neg hnone] at hjoined ⊢
    exact trimEnd_of_bare hjoined

/-- A text of so many slashes. -/
def slashText (n : Nat) : String := String.ofList (slashes n)

theorem toList_slashText (n : Nat) : (slashText n).toList = slashes n :=
  String.toList_ofList

/-- The server and the shared path with slashes around them, and what they
are joined to. -/
theorem joinBase_parts (server shared : String) :
    ∃ a b c : Nat, ∃ s p : String,
      server = s ++ slashText a ∧ shared = slashText b ++ p ++ slashText c
        ∧ EndsBare s.toList ∧ BeginsBare p.toList ∧ EndsBare p.toList
        ∧ joinBase server shared = if p = "" then s else s ++ "/" ++ p := by
  obtain ⟨a, ha⟩ := exists_trimEnd server.toList
  obtain ⟨b, c, hbc⟩ := exists_core shared.toList
  refine ⟨a, b, c, String.ofList (trimEnd server.toList),
    String.ofList (core shared.toList), ?_, ?_, ?_, ?_, ?_, ?_⟩
  · refine String.toList_inj.1 ?_
    rw [String.toList_append, toList_slashText, String.toList_ofList]
    exact ha
  · refine String.toList_inj.1 ?_
    rw [String.toList_append, String.toList_append, toList_slashText,
      toList_slashText, String.toList_ofList]
    exact hbc
  · rw [String.toList_ofList]
    exact endsBare_trimEnd _
  · rw [String.toList_ofList]
    exact beginsBare_core _
  · rw [String.toList_ofList]
    exact endsBare_core _
  · refine String.toList_inj.1 ?_
    rw [joinBase_cores]
    unfold joined
    by_cases hnone : core shared.toList = []
    · rw [if_pos hnone, if_pos (by rw [hnone]), String.toList_ofList]
    · have hsome : String.ofList (core shared.toList) ≠ "" := by
        intro h
        refine hnone ?_
        rw [← String.toList_ofList (l := core shared.toList), h]
        rfl
      rw [if_neg hnone, if_neg hsome]
      simp

/-- A path is joined without the slashes before it. -/
theorem joinPath_parts (base path : String) (j : Nat) :
    ∃ i rest, path = slashText i ++ rest ∧ BeginsBare rest.toList
      ∧ joinPath base (slashText j ++ path) = base ++ "/" ++ rest := by
  obtain ⟨i, hi⟩ := exists_trimStart path.toList
  refine ⟨i, String.ofList (trimStart path.toList), ?_, ?_, ?_⟩
  · refine String.toList_inj.1 ?_
    rw [String.toList_append, toList_slashText, String.toList_ofList]
    exact hi
  · rw [String.toList_ofList]
    exact beginsBare_trimStart _
  · refine String.toList_inj.1 ?_
    unfold joinPath
    rw [String.toList_append, toList_slashText, trimStart_slashes]
    simp

/-- Slashes at the joints make no difference. For all servers, shared paths
and paths: slashes behind the server and around the shared path leave the
address as it is; it is the server without the slashes behind it, and one
slash and the shared path without the slashes around it, unless nothing is
left of that. It never ends in a slash, and it is kept where nothing is
joined to it. The address of a path is that address, one slash, and the path
without the slashes before it. -/
theorem joining_ignores_slashes (server shared path : String)
    (n m k j : Nat) :
    let base := joinBase server shared
    joinBase (server ++ slashText n) (slashText m ++ shared ++ slashText k)
        = base
      ∧ (∃ a b c : Nat, ∃ s p : String,
          server = s ++ slashText a
            ∧ shared = slashText b ++ p ++ slashText c
            ∧ EndsBare s.toList ∧ BeginsBare p.toList ∧ EndsBare p.toList
            ∧ base = if p = "" then s else s ++ "/" ++ p)
      ∧ EndsBare base.toList
      ∧ joinBase base "" = base
      ∧ ∃ i rest, path = slashText i ++ rest ∧ BeginsBare rest.toList
          ∧ joinPath base (slashText j ++ path) = base ++ "/" ++ rest := by
  intro base
  have hbase : base.toList
      = joined (trimEnd server.toList) (core shared.toList) :=
    joinBase_cores server shared
  have hbare : EndsBare base.toList := by
    rw [hbase]
    exact endsBare_joined (endsBare_trimEnd _) (endsBare_core _)
  refine ⟨?_, joinBase_parts server shared, hbare, ?_,
    joinPath_parts base path j⟩
  · refine String.toList_inj.1 ?_
    rw [joinBase_cores, hbase]
    simp only [String.toList_append, toList_slashText]
    rw [trimEnd_slashes, core_slashes]
  · refine String.toList_inj.1 ?_
    rw [joinBase_cores, trimEnd_of_bare hbare]
    rfl

end SecurityConsole.Url
