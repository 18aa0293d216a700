/-
The headers that tie a request to its trace say just what the trace is.

The header for the parent of a span holds three numbers in hexadecimal
digits of fixed width, so its text can be cut where the digits end and each
number is read back (`Context.readParent?_parentText`). Which headers are
set is told name by name (`values_inject`): a header is set or left, and
where it is left it keeps all its values. The text for the parent may always
stand in a header, since it has nothing but digits and dashes
(`Context.legal_parentText`); the other two texts have to be looked at.
-/
import Mathlib.Algebra.Group.Nat.Defs
import SecurityConsole.Trace.Context
import SecurityConsole.Text.Cut
import SecurityConsole.Proofs.Json.Reading

namespace SecurityConsole

-- ================================================================= digits

namespace Text.Hex

/-- The hexadecimal digits in lower case. -/
def lowerDigits : List Char :=
  ['0', '1', '2', '3', '4', '5', '6', '7', '8', '9', 'a', 'b', 'c', 'd',
    'e', 'f']

theorem lower_mem : ∀ n, n < 16 → lower n ∈ lowerDigits := by
  decide

theorem length_digits (width n : Nat) : (digits width n).length = width := by
  induction width generalizing n with
  | zero => rfl
  | succ width ih =>
      rw [digits, List.length_append, ih, List.length_singleton]

/-- What identifiers are written with are small hexadecimal digits. -/
theorem digits_subset {width n : Nat} {c : Char}
    (h : c ∈ digits width n) : c ∈ lowerDigits := by
  induction width generalizing n with
  | zero => cases h
  | succ width ih =>
      rcases List.mem_append.1 h with h | h
      · exact ih h
      · rw [List.mem_singleton.1 h]
        exact lower_mem _ (Nat.mod_lt n (by decide))

/-- Digits are read back, as far as there is room for the number. -/
theorem read?_digits (width n : Nat) :
    read? (digits width n) = some (n % 16 ^ width) := by
  induction width generalizing n with
  | zero =>
      rw [Nat.pow_zero, Nat.mod_one]
      rfl
  | succ width ih =>
      have hfront := ih (n / 16)
      unfold read? at hfront ⊢
      rw [digits, List.foldlM_append, hfront]
      have hlast := value?_lower (n % 16) (Nat.mod_lt n (by decide))
      have hvalue : 16 * (n / 16 % 16 ^ width) + n % 16
          = n % 16 ^ (width + 1) := by
        rw [Nat.pow_succ', Nat.mod_mul]
        omega
      simp [hlast, hvalue]

end Text.Hex

namespace Trace

open Text

-- ============================================================ the parent

namespace Context

variable (c : Context)

/-- The parent of a span: a version, and three numbers of fixed
width. -/
theorem toList_parentText :
    c.parentText.toList
      = ['0', '0'] ++ '-' :: (Hex.digits 32 c.traceId.toNat ++
          '-' :: (Hex.digits 16 c.spanId.toNat ++
            '-' :: Hex.digits 2 c.flags.toNat)) := by
  unfold parentText
  simp only [String.toList_ofList, List.append_assoc, List.cons_append,
    List.nil_append]

/-- The header for the parent is a version and three numbers, in so many
digits in lower case. -/
theorem parentText_digits :
    ∃ trace span flags : List Char,
      c.parentText.toList
          = ['0', '0', '-'] ++ trace ++ '-' :: span ++ '-' :: flags
        ∧ trace.length = 32 ∧ span.length = 16 ∧ flags.length = 2
        ∧ ∀ d ∈ trace ++ span ++ flags, d ∈ Hex.lowerDigits := by
  refine ⟨Hex.digits 32 c.traceId.toNat, Hex.digits 16 c.spanId.toNat,
    Hex.digits 2 c.flags.toNat, ?_, Hex.length_digits _ _,
    Hex.length_digits _ _, Hex.length_digits _ _, fun d hd => ?_⟩
  · simp [c.toList_parentText]
  · rcases List.mem_append.1 hd with hd | hd
    · rcases List.mem_append.1 hd with hd | hd
      · exact Hex.digits_subset hd
      · exact Hex.digits_subset hd
    · exact Hex.digits_subset hd

/-- The parts of the header for the parent, between its dashes. -/
theorem cutAt_parentText :
    cutAt (· = '-') c.parentText.toList
      = [['0', '0'], Hex.digits 32 c.traceId.toNat,
          Hex.digits 16 c.spanId.toNat, Hex.digits 2 c.flags.toNat] := by
  have hdash : ∀ width n, ∀ d ∈ Hex.digits width n,
      decide (d = '-') = false := by
    intro width n d hd
    refine decide_eq_false ?_
    rintro rfl
    exact absurd (Hex.digits_subset hd) (by decide)
  rw [toList_parentText, cutAt_append rfl, cutAt_append rfl,
    cutAt_append rfl, cutAt_of_none (hdash 32 _), cutAt_of_none (hdash 16 _),
    cutAt_of_none (hdash 2 _)]
  rfl

/-- The trace, the span and the flags that a header for the parent names:
behind the version, three numbers in so many hexadecimal digits. -/
def readParent? (text : String) :
    Option (BitVec 128 × BitVec 64 × UInt8) :=
  match cutAt (· = '-') text.toList with
  | [['0', '0'], trace, span, flags] =>
    if trace.length = 32 ∧ span.length = 16 ∧ flags.length = 2 then
      match Hex.read? trace, Hex.read? span, Hex.read? flags with
      | some t, some s, some f =>
        some (.ofNat 128 t, .ofNat 64 s, .ofNat f)
      | _, _, _ => none
    else none
  | _ => none

/-- Trace, span and flags are read back. -/
theorem readParent?_parentText :
    readParent? c.parentText = some (c.traceId, c.spanId, c.flags) := by
  have htrace : c.traceId.toNat % 16 ^ 32 = c.traceId.toNat :=
    Nat.mod_eq_of_lt c.traceId.isLt
  have hspan : c.spanId.toNat % 16 ^ 16 = c.spanId.toNat :=
    Nat.mod_eq_of_lt c.spanId.isLt
  have hflags : c.flags.toNat % 16 ^ 2 = c.flags.toNat :=
    Nat.mod_eq_of_lt c.flags.toNat_lt
  unfold readParent?
  rw [cutAt_parentText]
  simp only [Hex.length_digits, Hex.read?_digits, htrace, hspan, hflags,
    and_self, if_true]
  simp

/-- The text for the parent may stand in a header: it has nothing but digits
and dashes. -/
theorem legal_parentText : Http.legalHeader c.parentText = true := by
  have hlegal : ('-' :: Hex.lowerDigits).all (fun d =>
      d = '\t' || (0x20 ≤ d.toNat && d.toNat ≠ 0x7f)) = true := by
    decide
  unfold Http.legalHeader
  rw [List.all_eq_true, toList_parentText]
  intro d hd
  refine List.all_eq_true.1 hlegal d (List.mem_cons.2 ?_)
  simp only [List.mem_append, List.mem_cons, List.not_mem_nil, or_false]
    at hd
  rcases hd with (rfl | rfl) | rfl | hd | rfl | hd | rfl | hd
  · exact .inr (by decide)
  · exact .inr (by decide)
  · exact .inl rfl
  · exact .inr (Hex.digits_subset hd)
  · exact .inl rfl
  · exact .inr (Hex.digits_subset hd)
  · exact .inl rfl
  · exact .inr (Hex.digits_subset hd)

end Context

-- ============================================================== headers

namespace Headers

/-- The values of a header. -/
def values (hs : Headers) (name : String) : List String :=
  (hs.filter (·.1 = name)).map Prod.snd

/-- The values of a name are those of its headers, in order. -/
theorem values_cons (n v : String) (hs : Headers) (name : String) :
    values ((n, v) :: hs) name
      = if n = name then v :: values hs name else values hs name := by
  unfold values
  by_cases h : n = name <;> simp [h]

/-- A header that is set has one value; others keep theirs. -/
theorem values_set (name value : String) (hs : Headers) (other : String) :
    (hs.set name value).values other
      = if name = other then [value] else hs.values other := by
  induction hs with
  | nil => rw [set, values_cons]; rfl
  | cons first hs ih =>
      obtain ⟨n, v⟩ := first
      rw [set]
      by_cases hn : n = name
      · subst hn
        rw [if_pos rfl, values_cons, values_cons]
        by_cases hother : n = other
        · subst hother
          have hnone : values (hs.filter (·.1 ≠ n)) n = [] := by
            unfold values
            rw [List.filter_filter]
            simp
          rw [if_pos rfl, if_pos rfl, hnone]
        · have hkeep : values (hs.filter (·.1 ≠ n)) other
              = values hs other := by
            unfold values
            rw [List.filter_filter]
            refine congrArg _ (List.filter_congr fun e _ => ?_)
            by_cases he : e.1 = other
            · simp [he, Ne.symm hother]
            · simp [he]
          rw [if_neg hother, if_neg hother, if_neg hother, hkeep]
      · rw [if_neg hn, values_cons, values_cons, ih]
        by_cases hother : n = other
        · subst hother
          rw [if_pos rfl, if_pos rfl, if_neg (Ne.symm hn), if_neg (Ne.symm hn)]
        · rw [if_neg hother, if_neg hother]

/-- A text that may stand in a header is set, another one is left out. -/
theorem values_setLegal (name value : String) (hs : Headers)
    (other : String) :
    (hs.setLegal name value).values other
      = if name = other ∧ Http.legalHeader value = true then [value]
        else hs.values other := by
  unfold setLegal
  by_cases h : Http.legalHeader value = true
  · rw [if_pos h, values_set]
    simp [h]
  · rw [if_neg h, if_neg fun hboth => h hboth.2]

end Headers

-- ============================================================ injection

section
variable (c : Context) (requestId : Option String) (hs : Headers)
  (name : String)

theorem Context.isValid_iff :
    c.isValid = true ↔ c.traceId ≠ 0 ∧ c.spanId ≠ 0 := by
  unfold isValid
  simp

/-- What a context sets, header by header. -/
theorem Context.values_addTo :
    (c.addTo hs).values name
      = if stateHeader = name ∧ c.isValid = true ∧ c.stateText ≠ ""
          ∧ Http.legalHeader c.stateText = true then [c.stateText]
        else if parentHeader = name ∧ c.isValid = true then [c.parentText]
        else hs.values name := by
  have hlegal := c.legal_parentText
  unfold addTo
  by_cases hvalid : c.isValid = true
  · by_cases htext : c.stateText = ""
    · simp [hvalid, htext, hlegal, Headers.values_setLegal]
    · simp [hvalid, htext, hlegal, Headers.values_setLegal]
  · simp [hvalid]

/-- What a context and an id set, header by header. -/
theorem values_inject :
    (inject (some c) requestId hs).values name
      = match requestId.filter Http.legalHeader with
        | some id =>
          if requestHeader = name then [id] else (c.addTo hs).values name
        | none => (c.addTo hs).values name := by
  unfold inject
  cases requestId with
  | none => rfl
  | some id =>
      show ((c.addTo hs).setLegal requestHeader id).values name = _
      rw [Headers.values_setLegal, Option.filter_some]
      by_cases hlegal : Http.legalHeader id = true <;> simp [hlegal]

end

/-- The headers of a trace are set just as they should be. For all headers
there are, all contexts of spans and all ids of requests, given or not: the
header for the parent is set if the context names a trace and a span; that
for the state, if moreover there is a state and it may stand in a header;
that for the id, if there is one and it may stand in a header. What is set
has that one value, and all else keeps its values. The text for the parent
is a version, thirty-two digits for the trace, sixteen for the span and two
for the flags, and all three are read back from it. Without a context,
nothing but the id is set, just as for a context that names nothing. -/
theorem inject_sets_headers (c : Context) (requestId : Option String)
    (hs : Headers) :
    let after := inject (some c) requestId hs
    let valid := c.traceId ≠ 0 ∧ c.spanId ≠ 0
    (after.values parentHeader
        = if valid then [c.parentText] else hs.values parentHeader)
      ∧ (after.values stateHeader
        = if valid ∧ c.stateText ≠ ""
            ∧ Http.legalHeader c.stateText = true then [c.stateText]
          else hs.values stateHeader)
      ∧ (after.values requestHeader
        = match requestId.filter Http.legalHeader with
          | some id => [id]
          | none => hs.values requestHeader)
      ∧ (∀ name, name ∉ [parentHeader, stateHeader, requestHeader] →
          after.values name = hs.values name)
      ∧ (∃ trace span flags : List Char,
          c.parentText.toList
              = ['0', '0', '-'] ++ trace ++ '-' :: span ++ '-' :: flags
            ∧ trace.length = 32 ∧ span.length = 16 ∧ flags.length = 2
            ∧ ∀ d ∈ trace ++ span ++ flags, d ∈ Hex.lowerDigits)
      ∧ Context.readParent? c.parentText
          = some (c.traceId, c.spanId, c.flags)
      ∧ inject none requestId hs
          = inject (some ⟨0, 0, 0, []⟩) requestId hs := by
  intro after valid
  have hvalid : c.isValid = true ↔ valid := c.isValid_iff
  have hparent : requestHeader ≠ parentHeader := by decide
  have hstate : requestHeader ≠ stateHeader := by decide
  have hboth : stateHeader ≠ parentHeader := by decide
  have hcontext : ∀ name, requestHeader ≠ name →
      after.values name = (c.addTo hs).values name := by
    intro name hname
    refine (values_inject c requestId hs name).trans ?_
    cases requestId.filter Http.legalHeader with
    | none => rfl
    | some id => exact if_neg hname
  refine ⟨?_, ?_, ?_, fun name hname => ?_, c.parentText_digits,
    c.readParent?_parentText, rfl⟩
  · rw [hcontext _ hparent, c.values_addTo, if_neg fun h => hboth h.1]
    simp only [hvalid, true_and]
  · have hother : ¬ (parentHeader = stateHeader ∧ c.isValid = true) :=
      fun h => hboth h.1.symm
    rw [hcontext _ hstate, c.values_addTo, if_neg hother]
    simp only [hvalid, true_and]
  · refine (values_inject c requestId hs requestHeader).trans ?_
    cases requestId.filter Http.legalHeader with
    | some id => exact if_pos rfl
    | none =>
        show (c.addTo hs).values requestHeader = _
        rw [c.values_addTo, if_neg fun h => hstate h.1.symm,
          if_neg fun h => hparent h.1.symm]
  · simp only [List.mem_cons, List.not_mem_nil, or_false, not_or] at hname
    obtain ⟨hp, hs', hr⟩ := hname
    rw [hcontext _ (Ne.symm hr), c.values_addTo,
      if_neg fun h => hs' h.1.symm, if_neg fun h => hp h.1.symm]

end Trace
end SecurityConsole
