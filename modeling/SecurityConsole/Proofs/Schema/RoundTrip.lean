/-
What was read is written so that it is read again.

A shape is lossless if every value that comes from reading, or from a
field that was missing, is read back from what it is written as
(`Schema.Lossless`). Lists, options and records of lossless parts are
lossless (`Schema.Lossless.list`, `.optional`, `.record`). An option needs
that `null` is written for nothing that was read from something else
(`Schema.encode_ne_null`); a record needs that its names are distinct and
that a field that may be left out may be missing
(`Fields.decodeNamed_encode_cons`). Both can be checked on the shape
(`Schema.wellFormed`), and suffice (`Schema.lossless_of_wellFormed`).
-/
import SecurityConsole.Proofs.Schema.Members

namespace SecurityConsole

/-- Whether a value comes from reading, or from a field that was
missing. -/
def Schema.Comes (s : Schema) (v : s.Value) : Prop :=
  (∃ j, s.decode j = some v) ∨ s.blank? = some v

/-- Whether all values that come from reading are read back from what they
are written as. -/
def Schema.RoundTrips (s : Schema) : Prop :=
  ∀ j v, s.decode j = some v → s.decode (s.encode v) = some v

/-- Whether all values that come about are read back from what they are
written as. -/
def Schema.Lossless (s : Schema) : Prop :=
  ∀ v, s.Comes v → s.decode (s.encode v) = some v

/-- Whether the fields of a record come from reading one, or from one that
was missing. -/
def Fields.Comes (fs : Fields) (v : fs.Value) : Prop :=
  (∃ members, fs.decodeNamed members = some v)
    ∨ (∃ items, fs.decodeItems items = some v) ∨ fs.blank? = some v

/-- Whether the fields of all records that come about are read back from
what they are written as. -/
def Fields.Lossless (fs : Fields) : Prop :=
  ∀ v, fs.Comes v → fs.decodeNamed (fs.encode v) = some v

namespace Schema

/-- What was read is a special case of what may be written. -/
theorem Lossless.roundTrips {s : Schema} (h : s.Lossless) : s.RoundTrips :=
  fun j v hv => h v (.inl ⟨j, hv⟩)

-- ================================================================ leaves

theorem lossless_text : Schema.text.Lossless := fun _ _ => rfl

theorem lossless_bool : Schema.bool.Lossless := fun _ _ => rfl

theorem lossless_int (lo hi : Int) : (Schema.int lo hi).Lossless :=
  fun v _ => dif_pos v.2

theorem lossless_real : Schema.real.Lossless := fun _ _ => rfl

theorem lossless_json : Schema.json.Lossless := fun _ _ => rfl

/-- A choice is written by its name, and the name is found again where
no other one is the same. -/
theorem lossless_oneOf {names : List String} (h : names.Nodup) :
    (Schema.oneOf names).Lossless := by
  intro v _
  show names.finIdxOf? (names.get v) = some v
  exact List.finIdxOf?_eq_some_iff.2 ⟨rfl, fun j hj =>
    List.pairwise_iff_getElem.1 h j.1 v.1 j.2 v.2 hj⟩

-- ================================================================= lists

/-- Items that are read back one by one are read back as a list. -/
theorem mapM_map {α β : Type} {f : β → Option α} {g : α → β} :
    ∀ {items : List α}, (∀ x ∈ items, f (g x) = some x) →
      (items.map g).mapM f = some items := by
  intro items
  induction items with
  | nil => intro _; rfl
  | cons x items ih =>
      intro h
      rw [List.map_cons, List.mapM_cons, h x List.mem_cons_self,
        ih fun y hy => h y (List.mem_cons_of_mem x hy)]
      rfl

/-- The first item that was read, and the others. -/
theorem of_mapM_cons {α β : Type} {f : β → Option α} {y : β}
    {items : List β} {read : List α}
    (h : (y :: items).mapM f = some read) :
    ∃ x rest, f y = some x ∧ items.mapM f = some rest
      ∧ read = x :: rest := by
  rw [List.mapM_cons] at h
  obtain ⟨x, hx, h⟩ := Option.bind_eq_some_iff.1 h
  obtain ⟨rest, hrest, h⟩ := Option.bind_eq_some_iff.1 h
  exact ⟨x, rest, hx, hrest, (Option.some.inj h).symm⟩

/-- Where the items of a list come from. -/
theorem exists_of_mem_mapM {α β : Type} {f : β → Option α} {x : α} :
    ∀ {items : List β} {read : List α}, items.mapM f = some read →
      x ∈ read → ∃ y, f y = some x := by
  intro items
  induction items with
  | nil => intro read h hx; cases h; cases hx
  | cons y items ih =>
      intro read h hx
      obtain ⟨first, rest, hy, hrest, rfl⟩ := of_mapM_cons h
      rcases List.mem_cons.1 hx with rfl | hx
      · exact ⟨y, hy⟩
      · exact ih hrest hx

/-- A list of items that are read back is read back. -/
theorem RoundTrips.list {s : Schema} (h : s.RoundTrips) :
    (Schema.list s).Lossless := by
  rintro (v : List s.Value) hv
  have hitems : ∀ x ∈ v, s.decode (s.encode x) = some x := by
    intro x hx
    rcases hv with ⟨j, hj⟩ | hblank
    · cases j with
      | arr items =>
          obtain ⟨y, hy⟩ := exists_of_mem_mapM hj hx
          exact h y x hy
      | _ => cases hj
    · cases hblank
      cases hx
  exact mapM_map hitems

-- =============================================================== options

/-- An option reads anything but `null` as what it is an option of. -/
theorem decode_optional {s : Schema} {j : Json} (h : j ≠ .null) :
    (Schema.optional s).decode j = (s.decode j).map some := by
  cases j with
  | null => exact absurd rfl h
  | _ => rfl

/-- What was read from something else is not written as `null`. -/
theorem encode_ne_null : ∀ {s : Schema} {j : Json} {v : s.Value},
    s.decode j = some v → j ≠ .null → s.encode v ≠ .null
  | .text, _, _, _, _ => nofun
  | .bool, _, _, _, _ => nofun
  | .int .., _, _, _, _ => nofun
  | .real, _, _, _, _ => nofun
  | .json, j, v, h, hj => by
      cases h
      exact hj
  | .oneOf _, _, _, _, _ => nofun
  | .optional s, j, v, h, hj => by
      rw [decode_optional hj] at h
      obtain ⟨x, hx, rfl⟩ := Option.map_eq_some_iff.1 h
      show s.encode x ≠ .null
      exact encode_ne_null hx hj
  | .list _, _, _, _, _ => nofun
  | .record .., _, _, _, _ => nofun

/-- An option of something lossless is lossless. What it holds was read
from something else than `null`, and so it is not written as `null`
either. -/
theorem Lossless.optional {s : Schema} (h : s.Lossless) :
    (Schema.optional s).Lossless := by
  rintro (_ | x) hv
  · rfl
  · have hx : ∃ j, j ≠ .null ∧ s.decode j = some x := by
      rcases hv with ⟨j, hj⟩ | hblank
      · have hne : j ≠ .null := by
          rintro rfl
          cases hj
        rw [decode_optional hne] at hj
        obtain ⟨y, hy, heq⟩ := Option.map_eq_some_iff.1 hj
        cases heq
        exact ⟨j, hne, hy⟩
      · cases hblank
    obtain ⟨j, hne, hj⟩ := hx
    show (Schema.optional s).decode (s.encode x) = _
    rw [decode_optional (encode_ne_null hj hne), h x (.inl ⟨j, hj⟩)]
    rfl

end Schema

-- =============================================================== records

namespace Fields

variable {name : String} {rule : Rule} {value : Schema} {rest : Fields}

/-- What is read of a record is a matter of what stands under the names of
its fields. -/
theorem decodeNamed_congr {ms ns : List (String × Json)} :
    ∀ {fs : Fields}, (∀ n ∈ fs.names, ns.lookup n = ms.lookup n) →
      fs.decodeNamed ns = fs.decodeNamed ms
  | .nil, _ => rfl
  | .cons name rule value rest, h => by
      rw [decodeNamed, decodeNamed, h name List.mem_cons_self,
        decodeNamed_congr fun n hn => h n (List.mem_cons_of_mem name hn)]

/-- Where the first field comes from, and where the others do. -/
theorem Comes.cons {v : value.Value} {r : rest.Value}
    (h : (cons name rule value rest).Comes (v, r)) :
    value.Comes v ∧ rest.Comes r := by
  rcases h with ⟨members, h⟩ | ⟨items, h⟩ | h
  · rw [decodeNamed] at h
    split at h
    · rename_i hv hr
      cases h
      refine ⟨?_, .inl ⟨members, hr⟩⟩
      split at hv
      · exact .inl ⟨_, hv⟩
      · split at hv
        · cases hv
        · exact .inr hv
    · cases h
  · rw [decodeItems.eq_def] at h
    simp only at h
    split at h
    · rename_i hv hr
      cases h
      refine ⟨?_, .inr (.inl ⟨_, hr⟩)⟩
      split at hv
      · exact .inl ⟨_, hv⟩
      · split at hv
        · exact .inr hv
        · cases hv
    · cases h
  · rw [blank?] at h
    split at h
    · rename_i hv hr
      cases h
      exact ⟨.inr hv, .inr (.inr hr)⟩
    · cases h

theorem lossless_nil : Fields.nil.Lossless := fun _ _ => rfl

/-- A field that is left out is blank, and is read so. -/
theorem blank?_of_leftOut {v : value.Value}
    (h : value.leftOut rule v = true) : value.blank? = some v := by
  obtain ⟨-, hunset⟩ := of_decide_eq_true h
  cases value with
  | optional s =>
      cases v with
      | none => rfl
      | some x => cases hunset
  | list s =>
      cases v with
      | nil => rfl
      | cons x xs => cases hunset
  | _ => cases hunset

/-- A field is read back together with the others, if its name is not
theirs and it may be missing whenever it may be left out. -/
theorem decodeNamed_encode_cons {v : value.Value} {r : rest.Value}
    (hname : name ∉ rest.names)
    (hrule : rule.written = .whenSet → rule.missing ≠ .refused)
    (hv : value.decode (value.encode v) = some v)
    (hr : rest.decodeNamed (rest.encode r) = some r) :
    (cons name rule value rest).decodeNamed
      ((cons name rule value rest).encode (v, r)) = some (v, r) := by
  have hothers : rest.decodeNamed
      ((cons name rule value rest).encode (v, r)) = some r := by
    refine (decodeNamed_congr fun n hn => ?_).trans hr
    refine lookup_encode_rest v r ?_
    rintro rfl
    exact hname hn
  rw [decodeNamed, hothers, lookup_encode_cons v r hname]
  cases hout : value.leftOut rule v with
  | true =>
      have hmissing := hrule (of_decide_eq_true hout).1
      rw [if_pos rfl]
      simp only [if_neg hmissing, blank?_of_leftOut hout]
      rfl
  | false =>
      rw [if_neg Bool.false_ne_true]
      simp only [hv]
      rfl

/-- A lossless field in front of lossless ones. -/
theorem Lossless.cons (hname : name ∉ rest.names)
    (hrule : rule.written = .whenSet → rule.missing ≠ .refused)
    (hvalue : value.Lossless) (hrest : rest.Lossless) :
    (Fields.cons name rule value rest).Lossless := by
  rintro ⟨v, r⟩ h
  obtain ⟨hv, hr⟩ := h.cons
  exact decodeNamed_encode_cons hname hrule (hvalue v hv) (hrest r hr)

/-- A record of lossless fields. -/
theorem Lossless.record {fs : Fields} (h : fs.Lossless) (joined : Bool) :
    (Schema.record joined fs).Lossless := by
  intro v hv
  refine h v ?_
  rcases hv with ⟨j, hj⟩ | hblank
  · cases j with
    | obj members => exact .inl ⟨members, hj⟩
    | arr items =>
        cases joined with
        | false => exact .inr (.inl ⟨items, hj⟩)
        | true => cases hj
    | _ => cases hj
  · exact .inr (.inr hblank)

end Fields

-- ================================================================ checking

mutual
/-- Whether the names of every choice and of every record are distinct,
and every field that may be left out may be missing. -/
def Schema.wellFormed : Schema → Bool
  | .oneOf names => names.Nodup
  | .optional s => s.wellFormed
  | .list s => s.wellFormed
  | .record _ fields => fields.wellFormed
  | _ => true

/-- Whether they are in a record of these fields. -/
def Fields.wellFormed : Fields → Bool
  | .nil => true
  | .cons name rule value rest =>
    (rule.written = .always || rule.missing ≠ .refused)
      && name ∉ rest.names && value.wellFormed && rest.wellFormed
end

mutual
/-- A shape that passes the check is lossless, by induction on the
shape. -/
theorem Schema.lossless_of_wellFormed : ∀ {s : Schema},
    s.wellFormed = true → s.Lossless
  | .text, _ => Schema.lossless_text
  | .bool, _ => Schema.lossless_bool
  | .int lo hi, _ => Schema.lossless_int lo hi
  | .real, _ => Schema.lossless_real
  | .json, _ => Schema.lossless_json
  | .oneOf _, h => Schema.lossless_oneOf (of_decide_eq_true h)
  | .optional s, h => (Schema.lossless_of_wellFormed (s := s) h).optional
  | .list s, h => (Schema.lossless_of_wellFormed (s := s) h).roundTrips.list
  | .record joined _, h => (Fields.lossless_of_wellFormed h).record joined

/-- And so are the fields of a record that do. -/
theorem Fields.lossless_of_wellFormed : ∀ {fs : Fields},
    fs.wellFormed = true → fs.Lossless
  | .nil, _ => Fields.lossless_nil
  | .cons name rule value rest, h => by
      rw [Fields.wellFormed] at h
      simp only [Bool.and_eq_true, Bool.or_eq_true, decide_eq_true_eq] at h
      obtain ⟨⟨⟨hrule, hname⟩, hvalue⟩, hrest⟩ := h
      refine .cons hname (fun hwritten => hrule.resolve_left ?_)
        (Schema.lossless_of_wellFormed hvalue)
        (Fields.lossless_of_wellFormed hrest)
      rw [hwritten]
      decide
end

end SecurityConsole
