/-
What is escaped is read back.

An escaped byte is read as that byte (`unescapeBytes_escapeByte`), and a
character that begins no escape as its own bytes (`unescapeBytes_cons`);
laws on how a text is read go along it in these two steps
(`escape_induction`). So a text is read back, whatever the part of the
address, if percent signs are escaped too (`unescapeBytes_escapeChars`); a
part that keeps them is read as the text would be without any escaping
(`unescapeBytes_of_keeps`). A text stands for itself just when it holds no
escape (`unescapeBytes_eq_iff`): every escape takes three bytes and leaves
one.
-/
import SecurityConsole.Url.Percent
import SecurityConsole.Proofs.Json.Reading

namespace SecurityConsole.Url

open Text

-- ================================================================ escapes

/-- Whether a text begins with a hexadecimal digit. -/
def hexAhead : List Char → Bool
  | [] => false
  | c :: _ => (Hex.value? c).isSome

/-- Whether a text begins with two hexadecimal digits. -/
def beginsHex (s : List Char) : Bool := hexAhead s && hexAhead s.tail

/-- Whether a text holds an escape. -/
def hasEscape : List Char → Bool
  | [] => false
  | c :: rest => c = '%' && beginsHex rest || hasEscape rest

/-- Where an escape goes on, there are two digits. -/
theorem of_beginsHex {s : List Char} (h : beginsHex s = true) :
    ∃ a b x y rest, s = a :: b :: rest
      ∧ Hex.value? a = some x ∧ Hex.value? b = some y := by
  obtain ⟨ha, hb⟩ := Bool.and_eq_true_iff.1 h
  match s, ha, hb with
  | a :: b :: rest, ha, hb =>
      obtain ⟨x, hx⟩ := Option.isSome_iff_exists.1 ha
      obtain ⟨y, hy⟩ := Option.isSome_iff_exists.1 hb
      exact ⟨a, b, x, y, rest, rfl, hx, hy⟩
  | [_], _, hb => cases hb

/-- An escaped byte is read as that byte. -/
theorem unescapeBytes_escapeByte (b : UInt8) (rest : List Char) :
    unescapeBytes (escapeByte b ++ rest) = b :: unescapeBytes rest := by
  have hlt : b.toNat < 256 := b.toNat_lt
  have hhigh := Hex.value?_upper (b.toNat / 16) (by omega)
  have hlow := Hex.value?_upper (b.toNat % 16) (by omega)
  show unescapeBytes ('%' :: _ :: _ :: rest) = _
  rw [unescapeBytes, hhigh, hlow]
  simp only [Nat.div_add_mod, UInt8.ofNat_toNat]

/-- Escaped bytes are read back, one by one. -/
theorem unescapeBytes_escapeBytes (bs : Bytes) (rest : List Char) :
    unescapeBytes (bs.flatMap escapeByte ++ rest)
      = bs ++ unescapeBytes rest := by
  induction bs with
  | nil => rfl
  | cons b bs ih =>
      rw [List.flatMap_cons, List.append_assoc, unescapeBytes_escapeByte, ih]
      rfl

/-- A character that begins no escape is read as it is. -/
theorem unescapeBytes_cons {c : Char} {rest : List Char}
    (h : c = '%' → beginsHex rest = false) :
    unescapeBytes (c :: rest)
      = String.utf8EncodeChar c ++ unescapeBytes rest := by
  by_cases hc : c = '%'
  · subst hc
    match rest, h rfl with
    | [], _ => rfl
    | [a], _ => rfl
    | a :: b :: rest, h =>
        rw [unescapeBytes]
        cases ha : Hex.value? a with
        | none => rfl
        | some x =>
            cases hb : Hex.value? b with
            | none => rfl
            | some y =>
                simp [beginsHex, hexAhead, ha, hb] at h
  · rw [unescapeBytes.eq_def]
    split
    · rename_i heq
      exact absurd (List.cons.inj heq).1 hc
    · rename_i heq
      obtain ⟨rfl, rfl⟩ := List.cons.inj heq
      rfl
    · rename_i heq
      cases heq

/-- An escape is read as the byte it was written for. -/
theorem unescapeBytes_hex {a b : Char} {x y : Nat} (rest : List Char)
    (ha : Hex.value? a = some x) (hb : Hex.value? b = some y) :
    unescapeBytes ('%' :: a :: b :: rest)
      = UInt8.ofNat (16 * x + y) :: unescapeBytes rest := by
  rw [unescapeBytes, ha, hb]

/-- Induction along a text as it is read: at each place stands an escape,
or a character that begins none. -/
theorem escape_induction {motive : List Char → Prop} (nil : motive [])
    (escape : ∀ (a b : Char) (x y : Nat) (rest : List Char),
      Hex.value? a = some x → Hex.value? b = some y → motive rest →
        motive ('%' :: a :: b :: rest))
    (plain : ∀ (c : Char) (rest : List Char),
      (c = '%' → beginsHex rest = false) → motive rest →
        motive (c :: rest)) : ∀ s, motive s := by
  intro s
  -- on the length of the text: an escape is passed in three steps
  generalize hn : s.length = n
  induction n using Nat.strongRecOn generalizing s with
  | _ n ih =>
      subst hn
      cases s with
      | nil => exact nil
      | cons c rest =>
          by_cases hc : c = '%' ∧ beginsHex rest = true
          · obtain ⟨rfl, hbegins⟩ := hc
            obtain ⟨a, b, x, y, rest, rfl, hx, hy⟩ := of_beginsHex hbegins
            exact escape a b x y rest hx hy
              (ih rest.length (by simp; omega) rest rfl)
          · refine plain c rest (fun heq => ?_)
              (ih rest.length (Nat.lt_succ_self _) rest rfl)
            exact Bool.eq_false_iff.2 fun h => hc ⟨heq, h⟩

/-- What an escape is written with. -/
theorem of_mem_escapeByte {b : UInt8} {c : Char} (h : c ∈ escapeByte b) :
    c = '%' ∨ (Hex.value? c).isSome = true := by
  have hlt : b.toNat < 256 := b.toNat_lt
  have hdigit : ∀ n, n < 16 → (Hex.value? (Hex.upper n)).isSome = true :=
    fun n hn => Option.isSome_of_eq_some (Hex.value?_upper n hn)
  rcases List.mem_cons.1 h with rfl | h
  · exact .inl rfl
  · rcases List.mem_cons.1 h with rfl | h
    · exact .inr (hdigit _ (by omega))
    · rw [List.mem_singleton.1 h]
      exact .inr (hdigit _ (by omega))

-- =============================================================== escaping

theorem escapeChars_cons (keep : Char → Bool) (c : Char) (s : List Char) :
    escapeChars keep (c :: s) = escapeChar keep c ++ escapeChars keep s :=
  List.flatMap_cons

/-- What a text is escaped as is kept of it, or written for escapes. -/
theorem of_mem_escapeChars {keep : Char → Bool} {s : List Char} {c : Char}
    (h : c ∈ escapeChars keep s) :
    (c ∈ s ∧ keep c = true) ∨ c = '%' ∨ (Hex.value? c).isSome = true := by
  obtain ⟨d, hmem, hd⟩ := List.mem_flatMap.1 h
  unfold escapeChar at hd
  by_cases hk : keep d = true
  · rw [if_pos hk, List.mem_singleton] at hd
    subst hd
    exact .inl ⟨hmem, hk⟩
  · rw [if_neg hk] at hd
    obtain ⟨b, -, hb⟩ := List.mem_flatMap.1 hd
    exact .inr (of_mem_escapeByte hb)

/-- A character that is escaped is read back. -/
theorem unescapeBytes_escapeChar {keep : Char → Bool} {c : Char}
    {rest : List Char} (h : keep c = true → c ≠ '%') :
    unescapeBytes (escapeChar keep c ++ rest)
      = String.utf8EncodeChar c ++ unescapeBytes rest := by
  unfold escapeChar
  by_cases hk : keep c = true
  · rw [if_pos hk]
    exact unescapeBytes_cons fun hc => absurd hc (h hk)
  · rw [if_neg hk]
    exact unescapeBytes_escapeBytes _ rest

/-- A part that escapes percent signs is read back. -/
theorem unescapeBytes_escapeChars {keep : Char → Bool}
    (hpercent : keep '%' = false) (s : List Char) :
    unescapeBytes (escapeChars keep s) = encodeChars s := by
  induction s with
  | nil => rfl
  | cons c s ih =>
      have hc : keep c = true → c ≠ '%' := by
        rintro hk rfl
        rw [hpercent] at hk
        cases hk
      rw [escapeChars_cons, unescapeBytes_escapeChar hc, ih]
      rfl

section
variable {keep : Char → Bool}
  (hhex : ∀ c, (Hex.value? c).isSome = true → keep c = true)
include hhex

/-- Whether a digit comes next is the same before and behind escaping,
as digits are kept, and an escape begins with its sign. -/
theorem hexAhead_escapeChars (s : List Char) :
    hexAhead (escapeChars keep s) = hexAhead s := by
  cases s with
  | nil => rfl
  | cons c s =>
      rw [escapeChars_cons]
      unfold escapeChar
      by_cases hk : keep c = true
      · rw [if_pos hk]
        rfl
      · have hc : hexAhead (c :: s) = false := by
          cases hd : (Hex.value? c).isSome with
          | true => exact absurd (hhex c hd) hk
          | false => exact hd
        rw [if_neg hk, hc]
        cases hbytes : String.utf8EncodeChar c with
        | nil =>
            have hlen := String.length_utf8EncodeChar c
            rw [hbytes] at hlen
            exact absurd hlen (Nat.ne_of_lt c.utf8Size_pos)
        | cons b bs => rfl

/-- Escaping a text makes no escape of what was none. -/
theorem beginsHex_escapeChars (s : List Char) :
    beginsHex (escapeChars keep s) = beginsHex s := by
  unfold beginsHex
  rw [hexAhead_escapeChars hhex]
  cases s with
  | nil => rfl
  | cons c s =>
      cases hc : (Hex.value? c).isSome with
      | false =>
          have hnot : hexAhead (c :: s) = false := hc
          rw [hnot, Bool.false_and, Bool.false_and]
      | true =>
          have hkeep : escapeChars keep (c :: s) = c :: escapeChars keep s := by
            rw [escapeChars_cons, escapeChar, if_pos (hhex c hc)]
            rfl
          rw [hkeep]
          exact congrArg (_ && ·) (hexAhead_escapeChars hhex s)

/-- A part that keeps percent signs and digits is read as the text it was
written for. -/
theorem unescapeBytes_of_keeps (hpercent : keep '%' = true)
    (s : List Char) :
    unescapeBytes (escapeChars keep s) = unescapeBytes s := by
  induction s using escape_induction with
  | nil => rfl
  | escape a b x y rest hx hy ih =>
      have ha := hhex a (Option.isSome_of_eq_some hx)
      have hb := hhex b (Option.isSome_of_eq_some hy)
      have hkept : escapeChars keep ('%' :: a :: b :: rest)
          = '%' :: a :: b :: escapeChars keep rest := by
        simp [escapeChars_cons, escapeChar, hpercent, ha, hb]
      rw [hkept, unescapeBytes_hex _ hx hy, unescapeBytes_hex _ hx hy, ih]
  | plain c rest hplain ih =>
      rw [unescapeBytes_cons hplain, ← ih, escapeChars_cons]
      by_cases hk : keep c = true
      · rw [escapeChar, if_pos hk]
        refine unescapeBytes_cons fun heq => ?_
        exact (beginsHex_escapeChars hhex rest).trans (hplain heq)
      · exact unescapeBytes_escapeChar fun h => absurd h hk

end

-- ======================================================== without escapes

theorem encodeChars_cons (c : Char) (s : List Char) :
    encodeChars (c :: s) = String.utf8EncodeChar c ++ encodeChars s :=
  List.flatMap_cons

/-- Each character takes a byte at least. -/
theorem length_encodeChars_cons (c : Char) (s : List Char) :
    (encodeChars s).length < (encodeChars (c :: s)).length := by
  rw [encodeChars_cons, List.length_append, String.length_utf8EncodeChar]
  have hpos := c.utf8Size_pos
  omega

/-- An escape takes three bytes or more. -/
theorem length_encodeChars_hex (a b : Char) (rest : List Char) :
    (encodeChars rest).length + 3
      ≤ (encodeChars ('%' :: a :: b :: rest)).length := by
  have hb := length_encodeChars_cons b rest
  have ha := length_encodeChars_cons a (b :: rest)
  have hpercent := length_encodeChars_cons '%' (a :: b :: rest)
  omega

/-- A text is read as no more bytes than its own. -/
theorem length_unescapeBytes (s : List Char) :
    (unescapeBytes s).length ≤ (encodeChars s).length := by
  induction s using escape_induction with
  | nil => exact Nat.le_refl _
  | escape a b x y rest hx hy ih =>
      have hlen := length_encodeChars_hex a b rest
      rw [unescapeBytes_hex _ hx hy, List.length_cons]
      omega
  | plain c rest hplain ih =>
      rw [unescapeBytes_cons hplain, encodeChars_cons, List.length_append,
        List.length_append]
      omega

/-- A text with an escape is read as fewer. -/
theorem length_unescapeBytes_of_hasEscape {s : List Char}
    (h : hasEscape s = true) :
    (unescapeBytes s).length < (encodeChars s).length := by
  induction s using escape_induction with
  | nil => cases h
  | escape a b x y rest hx hy ih =>
      have hle := length_unescapeBytes rest
      have hlen := length_encodeChars_hex a b rest
      rw [unescapeBytes_hex _ hx hy, List.length_cons]
      omega
  | plain c rest hplain ih =>
      have hrest : hasEscape rest = true := by
        rcases Bool.or_eq_true_iff.1 h with hhere | hrest
        · obtain ⟨heq, hbegins⟩ := Bool.and_eq_true_iff.1 hhere
          rw [hplain (of_decide_eq_true heq)] at hbegins
          cases hbegins
        · exact hrest
      have hlt := ih hrest
      rw [unescapeBytes_cons hplain, encodeChars_cons, List.length_append,
        List.length_append]
      omega

/-- A text stands for itself just when it holds no escape. -/
theorem unescapeBytes_eq_iff (s : List Char) :
    unescapeBytes s = encodeChars s ↔ hasEscape s = false := by
  constructor
  · intro h
    refine Bool.eq_false_iff.2 fun hescape => ?_
    have hlt := length_unescapeBytes_of_hasEscape hescape
    rw [h] at hlt
    exact Nat.lt_irrefl _ hlt
  · intro h
    induction s with
    | nil => rfl
    | cons c rest ih =>
        obtain ⟨hhere, hrest⟩ := Bool.or_eq_false_iff.1 h
        have hplain : c = '%' → beginsHex rest = false := by
          rintro rfl
          simpa using hhere
        rw [unescapeBytes_cons hplain, ih hrest, encodeChars_cons]

end SecurityConsole.Url
