/-
What documents are written for, and that they are read as just that.

A document denotes a value if its strings spell the value's strings, by
characters or by the code units of UTF-16 (`Spells`), its numbers are
decimal integers of sixty-four bits (`Numeral.IsInt`), and no name of an
object occurs twice (`Denotes`). Whatever denotes a value is read as that
value, if the value is not nested too deeply (`toJson?_of_denotes`).
-/
import SecurityConsole.Json.Document

namespace SecurityConsole.Json

-- ============================================================== strings

/-- The first code unit of a character beyond the basic plane. -/
def highSurrogate (c : Char) : Nat := 0xD800 + (c.toNat - 0x10000) / 0x400

/-- The second code unit of a character beyond the basic plane. -/
def lowSurrogate (c : Char) : Nat := 0xDC00 + (c.toNat - 0x10000) % 0x400

/-- Pieces that spell characters, each as it is or in UTF-16. -/
inductive Spells : Pieces → List Char → Prop where
  | nil : Spells [] []
  | char {c : Char} {ps : Pieces} {s : List Char} (h : Spells ps s) :
      Spells (.char c :: ps) (c :: s)
  | unit {c : Char} {ps : Pieces} {s : List Char} (hc : c.toNat < 0x10000)
      (h : Spells ps s) : Spells (.unit c.toNat :: ps) (c :: s)
  | pair {c : Char} {ps : Pieces} {s : List Char} (hc : 0x10000 ≤ c.toNat)
      (h : Spells ps s) :
      Spells (.unit (highSurrogate c) :: .unit (lowSurrogate c) :: ps)
        (c :: s)

/-- No character is a surrogate. -/
theorem not_surrogate (c : Char) :
    isHigh c.toNat = false ∧ isLow c.toNat = false := by
  have hvalid : c.toNat < 0xD800 ∨ 0xDFFF < c.toNat ∧ c.toNat < 0x110000 :=
    c.valid
  simp only [isHigh, isLow, decide_eq_false_iff_not]
  omega

/-- The two units of a character beyond the first plane are a pair of
surrogates, and make that character again. -/
theorem surrogatePair_eq {c : Char} (h : 0x10000 ≤ c.toNat) :
    isHigh (highSurrogate c) = true ∧ isLow (lowSurrogate c) = true
      ∧ surrogatePair (highSurrogate c) (lowSurrogate c) = c := by
  have hvalid : c.toNat < 0xD800 ∨ 0xDFFF < c.toNat ∧ c.toNat < 0x110000 :=
    c.valid
  have hvalue : 0x10000 + (highSurrogate c - 0xD800) * 0x400
      + (lowSurrogate c - 0xDC00) = c.toNat := by
    unfold highSurrogate lowSurrogate
    omega
  refine ⟨?_, ?_, ?_⟩
  · have hhigh : 0xD800 ≤ highSurrogate c ∧ highSurrogate c < 0xDC00 := by
      unfold highSurrogate
      omega
    exact decide_eq_true hhigh
  · have hlow : 0xDC00 ≤ lowSurrogate c ∧ lowSurrogate c < 0xE000 := by
      unfold lowSurrogate
      omega
    exact decide_eq_true hlow
  · unfold surrogatePair
    rw [hvalue, Char.ofNat_toNat]

/-- Pieces are put together to what they spell: a unit that is no
surrogate is a character by itself, and a pair of them is one too. -/
theorem spell?_of_spells {ps : Pieces} {s : List Char} (h : Spells ps s) :
    spell? ps = some s := by
  induction h with
  | nil => rfl
  | char _ ih => rw [spell?, ih]; rfl
  | @unit c ps s _ _ ih =>
      obtain ⟨hhigh, hlow⟩ := not_surrogate c
      unfold spell?
      simp only [hhigh, hlow, ih, Bool.false_eq_true, if_false,
        Option.map_some, Char.ofNat_toNat]
  | @pair c ps s hc _ ih =>
      obtain ⟨hhigh, hlow, hpair⟩ := surrogatePair_eq hc
      unfold spell?
      simp only [hhigh, hlow, if_true, ih, Option.map_some, hpair]

theorem string?_of_spells {ps : Pieces} {s : String}
    (h : Spells ps s.toList) : string? ps = some s := by
  unfold string?
  rw [spell?_of_spells h]
  exact congrArg some String.ofList_toList

-- ============================================================= integers

/-- An integer of sixty-four bits, with a sign or without one. -/
def FitsWord (k : Int) : Prop :=
  -9223372036854775808 ≤ k ∧ k ≤ 18446744073709551615

/-- A numeral that is written for an integer. -/
structure Numeral.IsInt (n : Numeral) (k : Int) : Prop where
  fraction : n.fraction = none
  exponent : n.exponent = none
  sign : n.negative = decide (k < 0)
  digits : Nat.ofDigitChars 10 n.whole 0 = k.natAbs
  range : FitsWord k

/-- A numeral of an integer is read as it, by its sign: with one it has
to fit among the signed words, without one among the others. -/
theorem Numeral.IsInt.value? {n : Numeral} {k : Int} (h : n.IsInt k) :
    n.value? = some (.int k) := by
  obtain ⟨hlow, hhigh⟩ := h.range
  have hdigits : natOf 0 n.whole = k.natAbs := h.digits
  unfold Numeral.value?
  rw [h.fraction, h.exponent, h.sign, hdigits]
  by_cases hk : k < 0
  · have hfits : 0 < k.natAbs ∧ k.natAbs ≤ Number.signedBound := by
      unfold Number.signedBound
      omega
    have hsigned : -(k.natAbs : Int) = k := by omega
    simp only [hk, decide_true, if_true, hfits, and_self, hsigned]
  · have hfits : k.natAbs < Number.wordBound := by
      unfold Number.wordBound
      omega
    have hplain : (k.natAbs : Int) = k := by omega
    simp only [hk, decide_false, Bool.false_eq_true, if_false, hfits,
      if_true, hplain]

-- =============================================================== values

mutual
/-- A document that is written for a value. -/
inductive Denotes : Document → Json → Prop where
  | null : Denotes .null .null
  | bool (b : Bool) : Denotes (.bool b) (.bool b)
  | int {n : Numeral} {k : Int} (h : n.IsInt k) :
      Denotes (.number n) (.int k)
  | string {ps : Pieces} {s : String} (h : Spells ps s.toList) :
      Denotes (.string ps) (.str s)
  | array {ds : List Document} {js : List Json} (h : ItemsDenote ds js) :
      Denotes (.array ds) (.arr js)
  | object {ms : List (Pieces × Document)} {vs : List (String × Json)}
      (h : MembersDenote ms vs) (hnames : (vs.map Prod.fst).Nodup) :
      Denotes (.object ms) (.obj vs)

/-- The items of an array, one by one. -/
inductive ItemsDenote : List Document → List Json → Prop where
  | nil : ItemsDenote [] []
  | cons {d : Document} {j : Json} {ds : List Document} {js : List Json}
      (h : Denotes d j) (k : ItemsDenote ds js) :
      ItemsDenote (d :: ds) (j :: js)

/-- The members of an object, one by one. -/
inductive MembersDenote :
    List (Pieces × Document) → List (String × Json) → Prop where
  | nil : MembersDenote [] []
  | cons {ps : Pieces} {name : String} {d : Document} {j : Json}
      {ms : List (Pieces × Document)} {vs : List (String × Json)}
      (hname : Spells ps name.toList) (h : Denotes d j)
      (k : MembersDenote ms vs) :
      MembersDenote ((ps, d) :: ms) ((name, j) :: vs)
end

mutual
/-- How deeply arrays and objects are nested in a value. -/
def nesting : Json → Nat
  | .arr items => itemsNesting items + 1
  | .obj members => membersNesting members + 1
  | _ => 0

def itemsNesting : List Json → Nat
  | [] => 0
  | j :: rest => max (nesting j) (itemsNesting rest)

def membersNesting : List (String × Json) → Nat
  | [] => 0
  | (_, j) :: rest => max (nesting j) (membersNesting rest)
end

-- ============================================================== reading

/-- A name that is not there yet is put at the end. -/
theorem put_of_fresh {name : String} {j : Json}
    {acc : List (String × Json)} (h : name ∉ acc.map Prod.fst) :
    put name j acc = acc ++ [(name, j)] := by
  induction acc with
  | nil => rfl
  | cons m acc ih =>
      obtain ⟨hne, hrest⟩ : name ≠ m.1 ∧ name ∉ acc.map Prod.fst := by
        simpa using h
      unfold put
      rw [if_neg (Ne.symm hne), ih hrest]
      rfl

namespace Document

mutual
/-- What denotes a value is read as that value. -/
theorem toJson?_of_denotes {d : Document} {j : Json} :
    Denotes d j → ∀ {depth : Nat}, j.nesting ≤ depth →
      d.toJson? depth = some j
  | .null, _, _ => by rw [toJson?]
  | .bool b, _, _ => by rw [toJson?]
  | .int h, _, _ => by rw [toJson?, h.value?]
  | .string h, _, _ => by rw [toJson?, string?_of_spells h]; rfl
  | .array h, depth, hdepth => by
      rw [nesting] at hdepth
      obtain ⟨depth, rfl⟩ : ∃ k, depth = k + 1 := ⟨depth - 1, by omega⟩
      rw [toJson?, items?_of_denote h (by omega)]
      rfl
  | .object h hnames, depth, hdepth => by
      rw [nesting] at hdepth
      obtain ⟨depth, rfl⟩ : ∃ k, depth = k + 1 := ⟨depth - 1, by omega⟩
      rw [toJson?, members?_of_denote h (by omega) [] hnames]
      rfl

/-- The items of an array, none of which is nested more deeply than
all. -/
theorem items?_of_denote {ds : List Document} {js : List Json} :
    ItemsDenote ds js → ∀ {depth : Nat}, itemsNesting js ≤ depth →
      items? depth ds = some js
  | .nil, _, _ => by rw [items?]
  | .cons h k, depth, hdepth => by
      obtain ⟨hfirst, hrest⟩ := Nat.max_le.1 hdepth
      rw [items?, toJson?_of_denotes h hfirst]
      simp only [items?_of_denote k hrest, Option.map_some]

/-- The members of an object. What was read of them so far is kept in
order, and as no name occurs twice, none of them takes the place of
another. -/
theorem members?_of_denote {ms : List (Pieces × Document)}
    {vs : List (String × Json)} :
    MembersDenote ms vs → ∀ {depth : Nat}, membersNesting vs ≤ depth →
      ∀ acc : List (String × Json), ((acc ++ vs).map Prod.fst).Nodup →
        members? depth ms acc = some (acc ++ vs)
  | .nil, _, _, acc, _ => by rw [members?, List.append_nil]
  | @MembersDenote.cons ps name d j ms vs hname h k, depth, hdepth, acc,
      hnames => by
      obtain ⟨hfirst, hlast⟩ := Nat.max_le.1 hdepth
      have hfresh : name ∉ acc.map Prod.fst := by
        intro hmem
        rw [List.map_append, List.nodup_append] at hnames
        exact hnames.2.2 name hmem name List.mem_cons_self rfl
      have hrest := members?_of_denote k hlast (acc ++ [(name, j)])
        (by simpa using hnames)
      rw [members?, string?_of_spells hname, toJson?_of_denotes h hfirst]
      simp only [put_of_fresh hfresh, hrest, List.append_assoc,
        List.cons_append, List.nil_append]
end

end Document

-- ============================================================== records

section
variable {β : Type} {name : String} {v : β} {es : List (String × β)}

theorem lookup_eq_none_of_fresh (h : name ∉ es.map Prod.fst) :
    es.lookup name = none := by
  refine List.lookup_eq_none_iff.2 fun m hm => ?_
  simpa using fun heq => h (List.mem_map.2 ⟨m, hm, heq.symm⟩)

/-- The entry that stands under a name, if names are distinct. -/
theorem lookup_of_mem (hes : (es.map Prod.fst).Nodup)
    (h : (name, v) ∈ es) : es.lookup name = some v := by
  obtain ⟨before, behind, rfl⟩ := List.append_of_mem h
  refine List.lookup_eq_some_iff.2 ⟨before, behind, rfl, fun e he => ?_⟩
  rw [List.map_append, List.nodup_append] at hes
  have hne := hes.2.2 e.1 (List.mem_map.2 ⟨e, he, rfl⟩) name
    List.mem_cons_self
  exact bne_iff_ne.2 (Ne.symm hne)

theorem mem_of_lookup (h : es.lookup name = some v) : (name, v) ∈ es := by
  obtain ⟨before, behind, rfl, -⟩ := List.lookup_eq_some_iff.1 h
  exact List.mem_append_right before List.mem_cons_self

end

namespace Document

/-- Members as they are written, and with the names that they spell. -/
inductive NamedAs :
    List (Pieces × Document) → List (String × Document) → Prop where
  | nil : NamedAs [] []
  | cons {ps : Pieces} {name : String} {d : Document}
      {ms : List (Pieces × Document)} {es : List (String × Document)}
      (hname : Spells ps name.toList) (h : NamedAs ms es) :
      NamedAs ((ps, d) :: ms) ((name, d) :: es)

/-- The members that have one of the names, with their values. -/
def knownValues (names : List String) (depth : Nat)
    (es : List (String × Document)) : List (String × Json) :=
  es.filterMap fun e =>
    if e.1 ∈ names then (e.2.toJson? depth).map (e.1, ·) else none

/-- Of distinct members, those that have one of the names are read, and
the others are skipped. -/
theorem known?_of_named {names : List String} {depth : Nat}
    {ms : List (Pieces × Document)} {es : List (String × Document)}
    (h : NamedAs ms es) : ∀ acc : List (String × Json),
    (acc.map Prod.fst ++ es.map Prod.fst).Nodup →
    (∀ e ∈ es, e.1 ∈ names → ∃ j, e.2.toJson? depth = some j) →
    known? names depth ms acc
      = some (acc ++ knownValues names depth es) := by
  induction h with
  | nil =>
      intro acc _ _
      rw [known?]
      exact congrArg some (List.append_nil acc).symm
  | @cons ps name d ms es hname _ ih =>
      intro acc hdistinct hread
      have hrest : ∀ e ∈ es, e.1 ∈ names →
          ∃ j, e.2.toJson? depth = some j :=
        fun e he => hread e (List.mem_cons_of_mem _ he)
      unfold known?
      rw [string?_of_spells hname]
      by_cases hknown : name ∈ names
      · obtain ⟨j, hj⟩ : ∃ j, d.toJson? depth = some j :=
          hread (name, d) List.mem_cons_self hknown
        have hfresh : name ∉ acc.map Prod.fst := fun hmem =>
          (List.nodup_append.1 hdistinct).2.2 name hmem name
            List.mem_cons_self rfl
        have hmore := ih (acc ++ [(name, j)]) (by simpa using hdistinct)
          hrest
        simp [hknown, lookup_eq_none_of_fresh hfresh, hj, hmore,
          knownValues]
      · have hskip : (acc.map Prod.fst ++ es.map Prod.fst).Nodup :=
          hdistinct.sublist
            (List.Sublist.append_left (List.sublist_cons_self ..) _)
        simp [hknown, ih acc hskip hrest, knownValues]

/-- Under a name that is known stands what the object has there. -/
theorem lookup_knownValues {names : List String} {name : String}
    (hname : name ∈ names) (depth : Nat) {es : List (String × Document)}
    (hread : ∀ e ∈ es, e.1 ∈ names → ∃ j, e.2.toJson? depth = some j) :
    (knownValues names depth es).lookup name
      = (es.lookup name).bind (·.toJson? depth) := by
  induction es with
  | nil => rfl
  | cons e es ih =>
      obtain ⟨other, d⟩ := e
      have hrest := ih fun e he => hread e (List.mem_cons_of_mem _ he)
      unfold knownValues at hrest ⊢
      by_cases hother : other ∈ names
      · obtain ⟨j, hj⟩ : ∃ j, d.toJson? depth = some j :=
          hread (other, d) List.mem_cons_self hother
        by_cases heq : name = other
        · simp [hother, hj, heq]
        · have hne : (name == other) = false := beq_eq_false_iff_ne.2 heq
          simp [hother, hj, List.lookup_cons, hne, hrest]
      · have hne : (name == other) = false := by
          rw [beq_eq_false_iff_ne]
          rintro rfl
          exact hother hname
        simp [hother, List.lookup_cons, hne, hrest]

end Document
end SecurityConsole.Json
