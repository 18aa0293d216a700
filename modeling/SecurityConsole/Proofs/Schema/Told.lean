/-
Records that tell just what is set.

A value is told by JSON if every field that is set stands there under its
name with its value, at any depth, and no other name stands there at all
(`Schema.Told`). An option without a value is unset, and so is a list
without items that is written only when it has some (`Schema.unset`).

A schema is sparing if its records name no field twice and write options
only when they have a value (`Schema.sparing`). Then whatever it writes
tells just what is set (`Schema.told_encode`).
-/
import SecurityConsole.Proofs.Schema.Members

namespace SecurityConsole

-- ================================================================ telling

namespace Schema

/-- Whether values are options. -/
def isOptional : Schema → Bool
  | .optional _ => true
  | _ => false

/-- Whether a field is unset: an option without a value, or a list without
items that is written only when it has some. -/
def unset (rule : Rule) (s : Schema) (v : s.Value) : Bool :=
  !s.isSet v && (s.isOptional || rule.written = .whenSet)

end Schema

mutual
/-- Whether JSON tells a value, with all that is set in it and nothing
else. An option is told only where it has a value. -/
def Schema.Told : (s : Schema) → s.Value → Json → Prop
  | .optional s, v, j => ∃ x : s.Value, v = some x ∧ s.Told x j
  | .list s, v, j =>
    ∃ items, j = .arr items ∧ List.length items = List.length v
      ∧ ∀ p ∈ List.zip v items, s.Told p.1 p.2
  | .record _ fields, v, j =>
    ∃ members, j = .obj members ∧ (members.map Prod.fst).Nodup
      ∧ (∀ m ∈ members, m.1 ∈ fields.names) ∧ fields.Told v members
  | s, v, j => j = s.encode v

/-- Whether members tell each field under its name if it is set, and have
no such name if it is not. -/
def Fields.Told : (fs : Fields) → fs.Value → List (String × Json) → Prop
  | .nil, _, _ => True
  | .cons name rule value rest, (v, r), members =>
    (match members.lookup name with
      | none => value.unset rule v = true
      | some j => value.unset rule v = false ∧ value.Told v j)
      ∧ rest.Told r members
end

mutual
/-- Whether a schema writes options only when they have a value, and never
two fields under one name. Options stand only in fields. -/
def Schema.sparing : Schema → Bool
  | .optional s => !s.isOptional && s.sparing
  | .list s => !s.isOptional && s.sparing
  | .record _ fields => fields.sparing
  | _ => true

/-- Whether the fields of a record do. -/
def Fields.sparing : Fields → Bool
  | .nil => true
  | .cons name rule value rest =>
    (!value.isOptional || rule.written = .whenSet) && name ∉ rest.names
      && value.sparing && rest.sparing
end

namespace Fields

variable {name : String} {rule : Rule} {value : Schema} {rest : Fields}

/-- What is asked of the first field, and of the others. -/
theorem sparing_cons (h : (cons name rule value rest).sparing = true) :
    (value.isOptional = true → rule.written = .whenSet)
      ∧ name ∉ rest.names ∧ value.sparing = true
      ∧ rest.sparing = true := by
  rw [sparing] at h
  simp only [Bool.and_eq_true, Bool.or_eq_true, Bool.not_eq_true',
    decide_eq_true_eq] at h
  obtain ⟨⟨⟨hrule, hname⟩, hvalue⟩, hrest⟩ := h
  refine ⟨fun ho => hrule.resolve_left ?_, hname, hvalue, hrest⟩
  rw [ho]
  exact Bool.noConfusion

theorem names_nodup_of_sparing : ∀ {fs : Fields}, fs.sparing = true →
    fs.names.Nodup
  | .nil, _ => List.nodup_nil
  | .cons .., h =>
      have ⟨_, hname, _, hrest⟩ := sparing_cons h
      List.nodup_cons.2 ⟨hname, names_nodup_of_sparing hrest⟩

/-- A field that is unset is left out, and no other. -/
theorem unset_eq_leftOut
    (h : value.isOptional = true → rule.written = .whenSet)
    (v : value.Value) : value.unset rule v = value.leftOut rule v := by
  unfold Schema.unset Schema.leftOut
  cases ho : value.isOptional with
  | true => simp [h ho]
  | false =>
      rw [Bool.false_or, Bool.and_comm, Bool.decide_and]
      simp

/-- Whether members tell the fields of a record is a matter of what stands
under the names of the fields. -/
theorem told_congr {ms ns : List (String × Json)} : ∀ {fs : Fields}
    {v : fs.Value}, (∀ n ∈ fs.names, ns.lookup n = ms.lookup n) →
      fs.Told v ms → fs.Told v ns
  | .nil, _, _, _ => trivial
  | .cons name rule value rest, (v, r), hsame, h => by
      rw [Told] at h ⊢
      rw [hsame name List.mem_cons_self]
      exact ⟨h.1, told_congr
        (fun n hn => hsame n (List.mem_cons_of_mem name hn)) h.2⟩

end Fields

/-- Beside an item stands what it was mapped to. -/
theorem of_mem_zip_map {α β : Type} {f : α → β} {p : α × β} :
    ∀ {items : List α}, p ∈ items.zip (items.map f) → p.2 = f p.1 := by
  intro items
  induction items with
  | nil => intro h; cases h
  | cons x items ih =>
      intro h
      rcases List.mem_cons.1 h with rfl | h
      · rfl
      · exact ih h

mutual
/-- Whatever a sparing schema writes tells just what is set. -/
theorem Schema.told_encode : ∀ (s : Schema), s.sparing = true →
    ∀ v : s.Value, (s.isOptional = true → s.isSet v = true) →
      s.Told v (s.encode v)
  | .text, _, _, _ => rfl
  | .bool, _, _, _ => rfl
  | .int .., _, _, _ => rfl
  | .real, _, _, _ => rfl
  | .json, _, _, _ => rfl
  | .oneOf _, _, _, _ => rfl
  | .optional _, _, none, hset => absurd (hset rfl) Bool.false_ne_true
  | .optional s, h, some x, _ => by
      obtain ⟨hplain, hs⟩ := Bool.and_eq_true_iff.1 h
      refine ⟨x, rfl, Schema.told_encode s hs x fun ho => ?_⟩
      rw [ho] at hplain
      cases hplain
  | .list s, h, v, _ => by
      obtain ⟨hplain, hs⟩ := Bool.and_eq_true_iff.1 h
      refine ⟨List.map s.encode v, rfl, List.length_map .., ?_⟩
      intro p hp
      rw [of_mem_zip_map hp]
      refine Schema.told_encode s hs p.1 fun ho => ?_
      rw [ho] at hplain
      cases hplain
  | .record _ fields, h, v, _ => by
      have hnames := fields.names_encode v
      refine ⟨fields.encode v, rfl, ?_, ?_, Fields.told_encode fields h v⟩
      · exact hnames.nodup (Fields.names_nodup_of_sparing h)
      · intro m hm
        exact hnames.mem (List.mem_map_of_mem hm)

/-- The fields of a record, one by one. A field that is not set is not
written, and none of the others has its name. -/
theorem Fields.told_encode : ∀ (fs : Fields), fs.sparing = true →
    ∀ v : fs.Value, fs.Told v (fs.encode v)
  | .nil, _, _ => trivial
  | .cons name rule value rest, h, (v, r) => by
      obtain ⟨hrule, hname, hvalue, hrest⟩ := Fields.sparing_cons h
      rw [Fields.Told]
      refine ⟨?_, ?_⟩
      · rw [Fields.lookup_encode_cons v r hname,
          Fields.unset_eq_leftOut hrule]
        cases hout : value.leftOut rule v with
        | true => rfl
        | false =>
            refine ⟨rfl, Schema.told_encode value hvalue v fun ho => ?_⟩
            simpa [Schema.leftOut, hrule ho] using hout
      · refine Fields.told_congr (fun n hn => ?_)
          (Fields.told_encode rest hrest r)
        refine Fields.lookup_encode_rest v r ?_
        rintro rfl
        exact hname hn
end

end SecurityConsole
