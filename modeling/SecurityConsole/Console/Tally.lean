/-
Counting requests by their method and the way they ended.
-/
import SecurityConsole.Resource.Endpoint
import SecurityConsole.ApiError

namespace SecurityConsole

/-- Counters of requests, for the pairs that occurred. -/
abbrev Tally := List ((Method × OutcomeLabel) × Nat)

namespace Tally

/-- Count one more. -/
def bump (key : Method × OutcomeLabel) : Tally → Tally
  | [] => [(key, 1)]
  | (k, n) :: rest =>
    if k = key then (k, n + 1) :: rest else (k, n) :: bump key rest

/-- The counter of a method and a label. -/
def count (t : Tally) (key : Method × OutcomeLabel) : Nat :=
  (t.lookup key).getD 0

-- ================================================================== laws

/-- Counting adds one to the counter it is about, and nothing to the
others. -/
theorem count_bump (t : Tally) (key other : Method × OutcomeLabel) :
    (bump key t).count other =
      t.count other + if other = key then 1 else 0 := by
  induction t with
  | nil =>
    by_cases h : other = key
    · simp [bump, count, h]
    · simp [bump, count, List.lookup_cons, beq_false_of_ne h, h]
  | cons e rest ih =>
    obtain ⟨k, n⟩ := e
    by_cases hk : k = key
    · subst hk
      by_cases h : other = k
      · simp [bump, count, h]
      · simp [bump, count, List.lookup_cons, beq_false_of_ne h, h]
    · by_cases h : other = k
      · subst h
        simp [bump, count, hk]
      · simp only [count] at ih
        simp [bump, count, List.lookup_cons, hk, beq_false_of_ne h, ih]

end Tally
end SecurityConsole
