/-
Printed values are read back.

The printer writes a text of a document that denotes the value
(`exists_text`), for every value that a document can denote: one whose
integers have sixty-four bits and whose objects name no member twice
(`Plain`). So there is no such value without a text, and printing is
undone by reading (`ofString?_print`).
-/
import SecurityConsole.Proofs.Json.Quoted

namespace SecurityConsole.Json

-- ================================================================ values

mutual
/-- A value without doubles, whose integers have sixty-four bits and whose
objects name no member twice. -/
def Plain : Json → Prop
  | .null | .bool _ | .str _ => True
  | .int k => FitsWord k
  | .real _ => False
  | .arr items => ItemsPlain items
  | .obj members => MembersPlain members ∧ (members.map Prod.fst).Nodup

def ItemsPlain : List Json → Prop
  | [] => True
  | j :: rest => Plain j ∧ ItemsPlain rest

def MembersPlain : List (String × Json) → Prop
  | [] => True
  | (_, j) :: rest => Plain j ∧ MembersPlain rest
end

-- ============================================================== integers

/-- Digits of a number begin with a zero only if the number is zero. -/
theorem toDigits_of_zero (n : Nat)
    (h : (Nat.toDigits 10 n).head? = some '0') :
    Nat.toDigits 10 n = ['0'] := by
  induction n using Nat.strongRecOn with
  | ind n ih =>
  by_cases hn : n < 10
  · rw [Nat.toDigits_of_lt_base hn] at h ⊢
    exact congrArg ([·]) (Option.some.inj h)
  · have hsplit : Nat.toDigits 10 (n / 10) ++ Nat.toDigits 10 (n % 10)
        = Nat.toDigits 10 n := by
      have happend := Nat.toDigits_append_toDigits (b := 10)
        (n := n / 10) (d := n % 10) (by decide) (by omega) (by omega)
      rwa [Nat.div_add_mod] at happend
    have hhead : (Nat.toDigits 10 (n / 10)).head? = some '0' := by
      rw [← hsplit] at h
      cases hfront : Nat.toDigits 10 (n / 10) with
      | nil => exact absurd hfront Nat.toDigits_ne_nil
      | cons c cs => rwa [hfront] at h
    -- what is left of the last digit is not zero
    have hfront := ih (n / 10) (by omega) hhead
    have hvalue := Nat.ofDigitChars_toDigits (b := 10) (n := n / 10)
      (by decide) (by decide)
    rw [hfront] at hvalue
    have hzero : n / 10 = 0 := hvalue.symm
    omega

/-- The numeral that an integer is printed as. -/
def Numeral.ofInt (k : Int) : Numeral :=
  ⟨decide (k < 0), Nat.toDigits 10 k.natAbs, none, none⟩

theorem Numeral.isInt_ofInt {k : Int} (h : FitsWord k) :
    (ofInt k).IsInt k where
  fraction := rfl
  exponent := rfl
  sign := rfl
  digits := Nat.ofDigitChars_toDigits (by decide) (by decide)
  range := h

/-- An integer is written as a sign, if it is negative, and the digits
of its size. -/
theorem toList_toString (k : Int) :
    (toString k).toList
      = minus (decide (k < 0)) ++ Nat.toDigits 10 k.natAbs := by
  rw [Int.toString_eq_repr]
  cases k with
  | ofNat n =>
      have hn : ¬ Int.ofNat n < 0 := by simp
      rw [decide_eq_false hn]
      exact Nat.toList_repr
  | negSucc n =>
      have hn : Int.negSucc n < 0 := by omega
      rw [decide_eq_true hn]
      show ("-" ++ (n + 1).repr).toList = '-' :: Nat.toDigits 10 (n + 1)
      rw [String.toList_append, Nat.toList_repr]
      rfl

/-- The digits of a number tell it. -/
theorem toDigits_injective {m n : Nat}
    (h : Nat.toDigits 10 m = Nat.toDigits 10 n) : m = n := by
  have hm := Nat.ofDigitChars_toDigits (b := 10) (n := m) (by decide)
    (by decide)
  rw [h, Nat.ofDigitChars_toDigits (by decide) (by decide)] at hm
  exact hm.symm

/-- The text of an integer tells it. -/
theorem toString_injective {k l : Int} (h : toString k = toString l) :
    k = l := by
  have hchars := congrArg String.toList h
  rw [toList_toString, toList_toString] at hchars
  -- a minus sign is no digit, so there are two of them or none
  have hsign : ∀ {n : Nat} {s : List Char}, '-' :: s ≠ Nat.toDigits 10 n := by
    intro n s heq
    have hmem : '-' ∈ Nat.toDigits 10 n := by
      rw [← heq]
      exact List.mem_cons_self
    have hdigit := Nat.isDigit_of_mem_toDigits (by decide) (by decide) hmem
    revert hdigit
    decide
  by_cases hk : k < 0 <;> by_cases hl : l < 0 <;>
    simp only [hk, hl, minus, decide_true, decide_false, Bool.false_eq_true,
      if_true, if_false, List.cons_append, List.nil_append] at hchars
  · have hsame := toDigits_injective (List.cons.inj hchars).2
    omega
  · exact absurd hchars hsign
  · exact absurd hchars.symm hsign
  · have hsame := toDigits_injective hchars
    omega

/-- So it is written as a numeral of the grammar. -/
theorem Numeral.ofInt_text (k : Int) :
    NumberText (ofInt k) (toString k).toList := by
  have hdigits : IsDigits (Nat.toDigits 10 k.natAbs) :=
    ⟨Nat.toDigits_ne_nil, fun c hc =>
      Nat.isDigit_of_mem_toDigits (by decide) (by decide) hc⟩
  have htext : NumberText (ofInt k) (minus (decide (k < 0))
      ++ (Nat.toDigits 10 k.natAbs ++ ([] ++ []))) :=
    .mk hdigits (toDigits_of_zero k.natAbs) .none .none
  rw [List.append_nil, List.append_nil] at htext
  rw [toList_toString]
  exact htext

-- ================================================================= texts

section
variable {ts us : List Token} {s r : List Char} {t : Token}

/-- Spaced texts of tokens may be put together. -/
theorem Spaced.append (h : Spaced ts s) (k : Spaced us r) :
    Spaced (ts ++ us) (s ++ r) := by
  induction h with
  | nil => exact k
  | blank hc _ ih => exact .blank hc ih
  | token ht _ ih =>
      rw [List.append_assoc]
      exact .token ht ih

theorem TokenText.spaced (h : TokenText t s) : Spaced [t] s := by
  have hall := Spaced.token h .nil
  rwa [List.append_nil] at hall

/-- The comma between two entries. -/
theorem spaced_comma (first : Bool) :
    Spaced (if first then [] else [.comma])
      (if first then [] else [',']) := by
  cases first with
  | true => exact .nil
  | false => exact TokenText.comma.spaced

end

mutual
/-- The text that is printed for a value is one of a document that denotes
the value. -/
theorem exists_text : ∀ {j : Json}, j.Plain →
    ∃ d, Denotes d j ∧ d.HasText j.printChars
  | .null, _ => ⟨.null, .null, TokenText.null.spaced⟩
  | .bool true, _ => ⟨_, .bool true, TokenText.isTrue.spaced⟩
  | .bool false, _ => ⟨_, .bool false, TokenText.isFalse.spaced⟩
  | .int k, h =>
    ⟨_, .int (Numeral.isInt_ofInt h),
      (TokenText.number (Numeral.ofInt_text k)).spaced⟩
  | .str s, _ =>
      ⟨_, .string (.written s.toList), (quoted_text s.toList).spaced⟩
  | .arr items, h => by
      obtain ⟨ds, hdenote, htext⟩ := exists_items_text true h
      exact ⟨.array ds, .array hdenote, .token .openBracket htext⟩
  | .obj members, h => by
      obtain ⟨ms, hdenote, htext⟩ := exists_members_text true h.1
      exact ⟨.object ms, .object hdenote h.2, .token .openBrace htext⟩

/-- The printed items of an array, up to its closing bracket. -/
theorem exists_items_text (first : Bool) : ∀ {js : List Json},
    ItemsPlain js →
      ∃ ds, ItemsDenote ds js
        ∧ Spaced (Document.itemTokens first ds) (printItems first js)
  | [], _ => ⟨[], .nil, TokenText.closeBracket.spaced⟩
  | j :: rest, h => by
      obtain ⟨d, hd, htext⟩ := exists_text h.1
      obtain ⟨ds, hds, hrest⟩ := exists_items_text false h.2
      refine ⟨d :: ds, .cons hd hds, ?_⟩
      have hall := (spaced_comma first).append (htext.append hrest)
      simpa only [Document.itemTokens, printItems, List.append_assoc]
        using hall

/-- The printed members of an object, up to its closing brace. -/
theorem exists_members_text (first : Bool) :
    ∀ {vs : List (String × Json)}, MembersPlain vs →
      ∃ ms, MembersDenote ms vs
        ∧ Spaced (Document.memberTokens first ms) (printMembers first vs)
  | [], _ => ⟨[], .nil, TokenText.closeBrace.spaced⟩
  | (name, j) :: rest, h => by
      obtain ⟨d, hd, htext⟩ := exists_text h.1
      obtain ⟨ms, hms, hrest⟩ := exists_members_text false h.2
      refine ⟨(written name.toList, d) :: ms,
        .cons (.written name.toList) hd hms, ?_⟩
      have hname : Spaced [.string (written name.toList), .colon]
          (quoteChars name.toList ++ [':']) :=
        .token (quoted_text name.toList) TokenText.colon.spaced
      have hall := (spaced_comma first).append
        (hname.append (htext.append hrest))
      simpa only [Document.memberTokens, printMembers, List.append_assoc,
        List.cons_append, List.nil_append] using hall
end

/-- Printing a value is undone by reading, if it is not nested too
deeply. -/
theorem ofString?_print {j : Json} (h : j.Plain)
    (hdepth : j.nesting ≤ Document.nestingLimit) :
    Json.ofString? j.print = some j := by
  obtain ⟨d, hdenotes, htext⟩ := exists_text h
  have hread : Document.ofString? j.print = some d := by
    refine Document.ofString?_of_hasText ?_
    unfold print
    rwa [String.toList_ofList]
  unfold Json.ofString?
  rw [hread]
  exact Document.toJson?_of_denotes hdenotes hdepth

end SecurityConsole.Json
