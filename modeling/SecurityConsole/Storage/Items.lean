/-
Items of a storage: texts under keys, kept in the order of the keys so
that a file written from them is the same whatever the history.
-/

namespace SecurityConsole.Storage

/-- Texts under keys, in the order of the keys. -/
abbrev Items := List (String × String)

namespace Items

/-- Put a text under a key, replacing the one that is there. -/
def put (key value : String) : Items → Items
  | [] => [(key, value)]
  | (k, v) :: rest =>
    if key = k then (key, value) :: rest
    else if key < k then (key, value) :: (k, v) :: rest
    else (k, v) :: put key value rest

/-- Remove the text under a key. -/
def erase (key : String) (items : Items) : Items :=
  items.filter fun e => e.1 ≠ key

/-- The text under a key. -/
def get? (items : Items) (key : String) : Option String :=
  items.lookup key

/-- Items from a list in which the last text of a key counts. -/
def ofList (entries : List (String × String)) : Items :=
  entries.foldl (fun acc e => put e.1 e.2 acc) []

-- ================================================================== laws

/-- A text that was put under a key is found there. -/
theorem get?_put_self (key value : String) (items : Items) :
    (items.put key value).get? key = some value := by
  induction items with
  | nil => simp [put, get?]
  | cons e rest ih =>
    obtain ⟨k, v⟩ := e
    unfold put
    split
    · simp [get?]
    · split
      · simp [get?]
      · rename_i hne _
        have : (key == k) = false := by simpa using hne
        simpa [get?, List.lookup_cons, this] using ih

/-- Putting a text under one key leaves the others alone. -/
theorem get?_put_of_ne {key other : String} (h : other ≠ key)
    (value : String) (items : Items) :
    (items.put key value).get? other = items.get? other := by
  have hk : (other == key) = false := by simpa using h
  induction items with
  | nil => simp [put, get?, List.lookup_cons, hk]
  | cons e rest ih =>
    obtain ⟨k, v⟩ := e
    unfold put
    split
    · rename_i heq; subst heq; simp [get?, List.lookup_cons, hk]
    · split
      · simp [get?, List.lookup_cons, hk]
      · simp only [get?, List.lookup_cons] at ih ⊢
        split <;> simp_all

/-- Nothing is found under a key that was erased. -/
theorem get?_erase_self (key : String) (items : Items) :
    (items.erase key).get? key = none := by
  induction items with
  | nil => rfl
  | cons e rest ih =>
    obtain ⟨k, v⟩ := e
    by_cases h : k = key
    · simpa [erase, get?, h] using ih
    · have : (key == k) = false := by simpa using fun h' => h h'.symm
      simpa [erase, get?, h, List.lookup_cons, this] using ih

/-- Erasing one key leaves the others alone. -/
theorem get?_erase_of_ne {key other : String} (h : other ≠ key)
    (items : Items) : (items.erase key).get? other = items.get? other := by
  induction items with
  | nil => rfl
  | cons e rest ih =>
    obtain ⟨k, v⟩ := e
    by_cases hk : k = key
    · have : (other == k) = false := by simpa [hk] using h
      simpa [erase, get?, hk, List.lookup_cons, this, hk ▸ this] using ih
    · simp only [erase, get?] at ih ⊢
      simp only [List.filter, hk, ne_eq, not_false_eq_true, decide_true,
        List.lookup_cons]
      split <;> simp_all

end Items
end SecurityConsole.Storage
