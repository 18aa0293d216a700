/-
Cutting a text at every character that passes a test: `n` such
characters give `n + 1` parts, and the parts with the characters between
them are the text.
-/

namespace SecurityConsole.Text

/-- The parts of a text between the characters that pass the test. -/
def cutAt (p : Char → Bool) : List Char → List (List Char)
  | [] => [[]]
  | c :: rest =>
    if p c then [] :: cutAt p rest
    else
      match cutAt p rest with
      | [] => [[c]]
      | part :: parts => (c :: part) :: parts

theorem cutAt_ne_nil (p : Char → Bool) (s : List Char) : cutAt p s ≠ [] := by
  cases s with
  | nil => simp [cutAt]
  | cons c rest => unfold cutAt; split <;> (try split) <;> simp

/-- No part holds a character that passes the test. -/
theorem not_of_mem_cutAt {p : Char → Bool} {s part : List Char} {c : Char}
    (hpart : part ∈ cutAt p s) (hc : c ∈ part) : p c = false := by
  induction s generalizing part with
  | nil => simp [cutAt] at hpart; subst hpart; cases hc
  | cons d rest ih =>
    unfold cutAt at hpart
    split at hpart
    · rcases List.mem_cons.1 hpart with rfl | h
      · cases hc
      · exact ih h hc
    · rename_i hd
      cases hcut : cutAt p rest with
      | nil => exact absurd hcut (cutAt_ne_nil p rest)
      | cons first parts =>
        rw [hcut] at hpart ih
        rcases List.mem_cons.1 hpart with rfl | h
        · rcases List.mem_cons.1 hc with rfl | hc
          · simpa using hd
          · exact ih (List.mem_cons_self ..) hc
        · exact ih (List.mem_cons_of_mem _ h) hc

/-- Two texts with a cut between them are cut one by one. -/
theorem cutAt_append {p : Char → Bool} {c : Char} (hc : p c = true)
    (s t : List Char) : cutAt p (s ++ c :: t) = cutAt p s ++ cutAt p t := by
  induction s with
  | nil =>
      show cutAt p (c :: t) = [] :: cutAt p t
      rw [cutAt.eq_2, if_pos hc]
  | cons d s ih =>
      rw [List.cons_append, cutAt, cutAt]
      by_cases hd : p d = true
      · rw [if_pos hd, if_pos hd, ih]
        rfl
      · rw [if_neg hd, if_neg hd, ih]
        cases hs : cutAt p s with
        | nil => exact absurd hs (cutAt_ne_nil p s)
        | cons part parts => rfl

/-- A text without a place to cut is one part. -/
theorem cutAt_of_none {p : Char → Bool} {s : List Char}
    (h : ∀ c ∈ s, p c = false) : cutAt p s = [s] := by
  induction s with
  | nil => rfl
  | cons c s ih =>
      have hc := h c List.mem_cons_self
      rw [cutAt, if_neg (by rw [hc]; exact Bool.false_ne_true),
        ih fun d hd => h d (List.mem_cons_of_mem c hd)]

end SecurityConsole.Text
