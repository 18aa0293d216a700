/-
The members of a record that is written.

They have names of its fields, in the order of the fields
(`Fields.names_encode`). So if the names of the fields are distinct, each
field is found under its name, and no field hides another
(`Fields.lookup_encode_cons`, `Fields.lookup_encode_rest`).
-/
import SecurityConsole.Schema.Basic
import SecurityConsole.Proofs.Json.Denotation

namespace SecurityConsole

/-- Whether a field is left out when its record is written. -/
def Schema.leftOut (rule : Rule) (s : Schema) (v : s.Value) : Bool :=
  rule.written = .whenSet ∧ !s.isSet v

namespace Fields

/-- What is written of a record has names of its fields, in order. -/
theorem names_encode : ∀ (fs : Fields) (v : fs.Value),
    ((fs.encode v).map Prod.fst).Sublist fs.names
  | .nil, _ => List.Sublist.refl []
  | .cons name rule value rest, (v, r) => by
      rw [encode, names]
      split
      · exact (names_encode rest r).cons name
      · exact (names_encode rest r).cons_cons name

/-- A name of no field is not written. -/
theorem lookup_encode_of_not_mem {name : String} {fs : Fields}
    (h : name ∉ fs.names) (v : fs.Value) :
    (fs.encode v).lookup name = none :=
  Json.lookup_eq_none_of_fresh fun hmem => h ((fs.names_encode v).mem hmem)

section
variable {name : String} {rule : Rule} {value : Schema} {rest : Fields}
  (hname : name ∉ rest.names) (v : value.Value) (r : rest.Value)

/-- What is written of the first field. -/
theorem lookup_encode_cons (hname : name ∉ rest.names) :
    ((Fields.cons name rule value rest).encode (v, r)).lookup name
      = if value.leftOut rule v then none else some (value.encode v) := by
  rw [encode]
  unfold Schema.leftOut
  by_cases h : rule.written = .whenSet ∧ !value.isSet v
  · rw [if_pos h, if_pos (decide_eq_true h)]
    exact lookup_encode_of_not_mem hname r
  · rw [if_neg h, if_neg (by simpa using h)]
    exact List.lookup_cons_self

/-- The first field hides no other. -/
theorem lookup_encode_rest {other : String} (hne : other ≠ name) :
    ((Fields.cons name rule value rest).encode (v, r)).lookup other
      = (rest.encode r).lookup other := by
  rw [encode]
  split
  · rfl
  · rw [List.lookup_cons, beq_eq_false_iff_ne.2 hne]

end
end Fields
end SecurityConsole
