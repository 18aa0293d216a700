/-
The pairs of a query.

A query holds the pairs of one parameter behind those of another
(`Fields.queryPairs_cons`), so if the parameters have distinct names,
under the name of each stand just its own pairs
(`Fields.asked_queryPairs`). All pairs have texts if the parameters are
scalars, or options or lists of these
(`Fields.scalarText?_of_mem_queryPairs`).
-/
import SecurityConsole.Resource.Endpoint

namespace SecurityConsole

open Resource

-- ================================================================== pairs

namespace Schema

/-- The name that the pairs of a parameter have. -/
def key (name : String) : Schema → String
  | .list _ => name ++ "[]"
  | _ => name

/-- The pairs of a parameter: one for each item of a list, one for an
option that has a value, none for an option without one. -/
def pairs (name : String) : (s : Schema) → s.Value → List (String × Json)
  | .list s, v => List.map (fun x => (name ++ "[]", s.encode x)) v
  | .optional _, none => []
  | .optional s, some x => [(name, s.encode x)]
  | s, v => [(name, s.encode v)]

/-- All pairs of a parameter have its key, which for a list has
brackets. -/
theorem key_of_mem_pairs {name : String} {s : Schema} {v : s.Value}
    {p : String × Json} (h : p ∈ s.pairs name v) : p.1 = s.key name := by
  cases s with
  | list s =>
      obtain ⟨x, -, rfl⟩ := List.mem_map.1 h
      rfl
  | optional s =>
      cases v with
      | none => cases h
      | some x => cases List.mem_singleton.1 h; rfl
  | _ => cases List.mem_singleton.1 h; rfl

end Schema

namespace Fields

/-- The names that the pairs of a query have. -/
def keys : Fields → List String
  | .nil => []
  | .cons name _ value rest => value.key name :: keys rest

/-- Whether pairs ask for what is set: under the name of each parameter
stand just its own pairs. -/
def Asked : (fs : Fields) → fs.Value → List (String × Json) → Prop
  | .nil, _, _ => True
  | .cons name _ value rest, (v, r), pairs =>
    pairs.filter (·.1 = value.key name) = value.pairs name v
      ∧ rest.Asked r pairs

/-- The pairs of the first parameter stand in front. -/
theorem queryPairs_cons (name : String) (rule : Rule) (value : Schema)
    (rest : Fields) (v : value.Value) (r : rest.Value) :
    Endpoint.queryPairs (.cons name rule value rest) (v, r)
      = value.pairs name v ++ Endpoint.queryPairs rest r := by
  cases value with
  | optional s => cases v <;> rfl
  | _ => rfl

/-- So the keys of a query are among those of its parameters. -/
theorem key_of_mem_queryPairs {p : String × Json} : ∀ {fs : Fields}
    {v : fs.Value}, p ∈ Endpoint.queryPairs fs v → p.1 ∈ fs.keys
  | .nil, _, h => by cases h
  | .cons name rule value rest, (v, r), h => by
      rw [queryPairs_cons] at h
      rcases List.mem_append.1 h with h | h
      · rw [Schema.key_of_mem_pairs h]
        exact List.mem_cons_self
      · exact List.mem_cons_of_mem _ (key_of_mem_queryPairs h)

/-- Pairs of another name in front change nothing. -/
theorem asked_append {front pairs : List (String × Json)} : ∀ {fs : Fields}
    {v : fs.Value}, (∀ p ∈ front, p.1 ∉ fs.keys) → fs.Asked v pairs →
      fs.Asked v (front ++ pairs)
  | .nil, _, _, _ => trivial
  | .cons name rule value rest, (v, r), hfront, h => by
      rw [Asked] at h ⊢
      have hnone : front.filter (·.1 = value.key name) = [] := by
        refine List.filter_eq_nil_iff.2 fun p hp heq => ?_
        have hmem : p.1 ∈ (cons name rule value rest).keys := by
          rw [of_decide_eq_true heq]
          exact List.mem_cons_self
        exact hfront p hp hmem
      rw [List.filter_append, hnone, List.nil_append]
      exact ⟨h.1, asked_append (fun p hp hmem =>
        hfront p hp (List.mem_cons_of_mem _ hmem)) h.2⟩

/-- A query asks for just what is set. -/
theorem asked_queryPairs : ∀ {fs : Fields}, fs.keys.Nodup →
    ∀ v : fs.Value, fs.Asked v (Endpoint.queryPairs fs v)
  | .nil, _, _ => trivial
  | .cons name rule value rest, h, (v, r) => by
      obtain ⟨hname, hrest⟩ := List.nodup_cons.1 h
      rw [queryPairs_cons, Asked, List.filter_append]
      have hown : (value.pairs name v).filter (·.1 = value.key name)
          = value.pairs name v :=
        List.filter_eq_self.2 fun p hp =>
          decide_eq_true (Schema.key_of_mem_pairs hp)
      have hothers : (Endpoint.queryPairs rest r).filter
          (·.1 = value.key name) = [] := by
        refine List.filter_eq_nil_iff.2 fun p hp heq => hname ?_
        rw [← of_decide_eq_true heq]
        exact key_of_mem_queryPairs hp
      refine ⟨?_, asked_append ?_ (asked_queryPairs hrest r)⟩
      · rw [hown, hothers, List.append_nil]
      · intro p hp
        rw [Schema.key_of_mem_pairs hp]
        exact hname

end Fields

-- ================================================================== texts

namespace Schema

/-- Whether the values of a shape have a text in a query. -/
def isScalar : Schema → Bool
  | .text | .bool | .int .. | .real | .oneOf _ => true
  | _ => false

theorem scalarText?_encode {s : Schema} (h : s.isScalar = true)
    (v : s.Value) : (scalarText? (s.encode v)).isSome = true := by
  cases s with
  | bool => cases v <;> rfl
  | text | int | real | oneOf => rfl
  | json | optional | list | record => cases h

/-- Whether the pairs of a parameter have texts. -/
def isAskable : Schema → Bool
  | .list s => s.isScalar
  | .optional s => s.isScalar
  | s => s.isScalar

/-- What is asked is scalar in the end: an option that is not set asks
nothing, and a list asks item by item. -/
theorem scalarText?_of_mem_pairs {name : String} {s : Schema}
    (h : s.isAskable = true) {v : s.Value} {p : String × Json}
    (hp : p ∈ s.pairs name v) : (scalarText? p.2).isSome = true := by
  cases s with
  | list s =>
      obtain ⟨x, -, rfl⟩ := List.mem_map.1 hp
      exact scalarText?_encode h x
  | optional s =>
      cases v with
      | none => cases hp
      | some x =>
          cases List.mem_singleton.1 hp
          exact scalarText?_encode h x
  | _ =>
      cases List.mem_singleton.1 hp
      refine scalarText?_encode ?_ v
      exact h

end Schema

namespace Fields

/-- Whether the pairs of a query have texts. -/
def areAskable : Fields → Bool
  | .nil => true
  | .cons _ _ value rest => value.isAskable && rest.areAskable

theorem scalarText?_of_mem_queryPairs {p : String × Json} :
    ∀ {fs : Fields} {v : fs.Value}, fs.areAskable = true →
      p ∈ Endpoint.queryPairs fs v → (scalarText? p.2).isSome = true
  | .nil, _, _, hp => by cases hp
  | .cons name rule value rest, (v, r), h, hp => by
      obtain ⟨hvalue, hrest⟩ := Bool.and_eq_true_iff.1 h
      rw [queryPairs_cons] at hp
      rcases List.mem_append.1 hp with hp | hp
      · exact Schema.scalarText?_of_mem_pairs hvalue hp
      · exact scalarText?_of_mem_queryPairs hrest hp

end Fields

end SecurityConsole
