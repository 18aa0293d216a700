/-
Numbers of a time stamp, as they are written and as they are read.

A number is written with digits, with zeros in front up to a width, and is
read back as the number it was (`value_ofNat`). The digits are all that the
reading depends on, and they are no more than the number and the width tell
(`Digits.chars_eq_of_value`), so reading a number and writing it again changes
nothing (`padded_value`).
-/
import Mathlib.Algebra.Group.Nat.Defs
import SecurityConsole.Time.Stamp
import SecurityConsole.Proofs.Json.Reading

namespace SecurityConsole.Time

open Json.Numeral (EndsDigits endsDigits_nil digits_append)
open Moment (padded)
open Text (isBlank trimBlankStart trimBlanks)

-- ================================================================ digits

/-- So many digits. -/
structure Digits (width : Nat) where
  chars : List Char
  length : chars.length = width
  isDigit : ∀ c ∈ chars, c.isDigit = true

namespace Digits

variable {width : Nat}

/-- The number that digits stand for. -/
def value (ds : Digits width) : Nat := Nat.ofDigitChars 10 ds.chars 0

theorem toNat_of_isDigit {c : Char} (h : c.isDigit = true) :
    48 ≤ c.toNat ∧ c.toNat ≤ 57 := by
  simpa [Char.isDigit, UInt32.le_iff_toNat_le] using h

theorem exists_cons (ds : Digits width) (hwidth : 0 < width) :
    ∃ c cs, ds.chars = c :: cs := by
  refine List.exists_cons_of_ne_nil fun hnil => ?_
  have hlength := ds.length
  rw [hnil] at hlength
  exact Nat.ne_of_lt hwidth hlength

/-- A digit in front counts for as many digits as stand behind it. -/
theorem ofDigitChars_cons (c : Char) (s : List Char) :
    Nat.ofDigitChars 10 (c :: s) 0
      = 10 ^ s.length * (c.toNat - 48) + Nat.ofDigitChars 10 s 0 := by
  rw [Nat.ofDigitChars_cons, Nat.ofDigitChars_eq_ofDigitChars_zero]
  rw [Nat.mul_zero, Nat.zero_add]
  rfl

/-- So many digits make a number below so much. -/
theorem ofDigitChars_lt {s : List Char} (h : ∀ c ∈ s, c.isDigit = true) :
    Nat.ofDigitChars 10 s 0 < 10 ^ s.length := by
  induction s with
  | nil => exact Nat.one_pos
  | cons c s ih =>
      have hc := toNat_of_isDigit (h c List.mem_cons_self)
      have hs := ih fun d hd => h d (List.mem_cons_of_mem c hd)
      rw [ofDigitChars_cons, List.length_cons, Nat.pow_succ]
      have hle : 10 ^ s.length * (c.toNat - 48) ≤ 10 ^ s.length * 9 :=
        Nat.mul_le_mul_left _ (by omega)
      omega

theorem value_lt (ds : Digits width) : ds.value < 10 ^ width := by
  have h := ofDigitChars_lt ds.isDigit
  rwa [ds.length] at h

/-- Of two numbers written with as many digits, the digits are told by the
number. -/
theorem chars_eq_of_value {s t : List Char} (hlength : s.length = t.length)
    (hs : ∀ c ∈ s, c.isDigit = true) (ht : ∀ c ∈ t, c.isDigit = true)
    (h : Nat.ofDigitChars 10 s 0 = Nat.ofDigitChars 10 t 0) : s = t := by
  induction s generalizing t with
  | nil => exact (List.length_eq_zero_iff.1 hlength.symm).symm
  | cons c s ih =>
      cases t with
      | nil => cases hlength
      | cons d t =>
          have hlength := Nat.succ.inj hlength
          have hc := toNat_of_isDigit (hs c List.mem_cons_self)
          have hd := toNat_of_isDigit (ht d List.mem_cons_self)
          have hs' := fun e he => hs e (List.mem_cons_of_mem c he)
          have ht' := fun e he => ht e (List.mem_cons_of_mem d he)
          have hslt := ofDigitChars_lt hs'
          have htlt := ofDigitChars_lt ht'
          rw [ofDigitChars_cons, ofDigitChars_cons, hlength] at h
          rw [hlength] at hslt
          -- what stands behind a digit is less than one of it
          have hdigit : c.toNat - 48 = d.toNat - 48 := by
            have hdiv := congrArg (· / 10 ^ t.length) h
            simpa only [Nat.mul_add_div (Nat.pow_pos (Nat.succ_pos 9)),
              Nat.div_eq_of_lt hslt, Nat.div_eq_of_lt htlt, Nat.add_zero]
              using hdiv
          rw [hdigit] at h
          rw [ih hlength hs' ht' (Nat.add_left_cancel h),
            Char.toNat_inj.1 (by omega : c.toNat = d.toNat)]

end Digits

-- =============================================================== padding

/-- A number is padded with zeros to its width, and never cut. -/
theorem toList_padded (width n : Nat) :
    (padded width n).toList
      = List.replicate (width - (Nat.toDigits 10 n).length) '0'
        ++ Nat.toDigits 10 n := by
  unfold padded
  have hdigits : (toString n).toList = Nat.toDigits 10 n := Nat.toList_repr
  rw [String.toList_append, String.toList_ofList, hdigits,
    ← String.length_toList, hdigits]

/-- Zeros are digits too. -/
theorem isDigit_padded (width n : Nat) :
    ∀ c ∈ (padded width n).toList, c.isDigit = true := by
  intro c hc
  rw [toList_padded, List.mem_append] at hc
  rcases hc with hc | hc
  · rw [List.eq_of_mem_replicate hc]
    rfl
  · exact Nat.isDigit_of_mem_toDigits (by decide) (by decide) hc

/-- It is as long as the width, or longer if the number is. -/
theorem length_padded (width n : Nat) :
    (padded width n).toList.length
      = max width (Nat.toDigits 10 n).length := by
  rw [toList_padded, List.length_append, List.length_replicate]
  omega

/-- A number that has no more digits than the width is as wide as that. -/
theorem length_padded_of_lt {width n : Nat} (hwidth : 0 < width)
    (h : n < 10 ^ width) : (padded width n).toList.length = width := by
  have hle : (Nat.toDigits 10 n).length ≤ width :=
    (Nat.length_toDigits_le_iff (Nat.lt_add_of_pos_left (Nat.succ_pos 8))
      hwidth).2 h
  rw [length_padded]
  exact Nat.max_eq_left hle

/-- Zeros in front do not count. -/
theorem ofDigitChars_padded (width n : Nat) :
    Nat.ofDigitChars 10 (padded width n).toList 0 = n := by
  rw [toList_padded, Nat.ofDigitChars_append]
  have hzeros : ∀ k, Nat.ofDigitChars 10 (List.replicate k '0') 0 = 0 := by
    intro k
    induction k with
    | zero => rfl
    | succ k ih =>
        rw [List.replicate_succ, Nat.ofDigitChars_cons]
        exact ih
  rw [hzeros, Nat.ofDigitChars_toDigits (by decide) (by decide)]

namespace Digits

variable {width : Nat}

/-- A number with digits up to a width. -/
def ofNat (width n : Nat) (hwidth : 0 < width) (h : n < 10 ^ width) :
    Digits width :=
  ⟨(padded width n).toList, length_padded_of_lt hwidth h,
    isDigit_padded width n⟩

section
variable {n : Nat} (hwidth : 0 < width) (h : n < 10 ^ width)

theorem chars_ofNat :
    (ofNat width n hwidth h).chars = (padded width n).toList := by
  simp only [ofNat]

/-- The digits of a number have its value. -/
theorem value_ofNat : (ofNat width n hwidth h).value = n := by
  unfold value
  rw [chars_ofNat, ofDigitChars_padded]

end

/-- A number that is not too great is written with as many digits as the
width. -/
theorem exists_padded (width : Nat) {n : Nat} (hwidth : 0 < width)
    (h : n < 10 ^ width) :
    ∃ ds : Digits width, ds.value = n ∧ (padded width n).toList = ds.chars :=
  ⟨ofNat width n hwidth h, value_ofNat hwidth h, (chars_ofNat hwidth h).symm⟩

/-- A number that was read is written with the same digits. -/
theorem padded_value (ds : Digits width) (hwidth : 0 < width) :
    (padded width ds.value).toList = ds.chars := by
  refine chars_eq_of_value ?_ (isDigit_padded width ds.value) ds.isDigit ?_
  · rw [length_padded_of_lt hwidth ds.value_lt, ds.length]
  · rw [ofDigitChars_padded]
    rfl

end Digits

-- ================================================================ blanks

/-- A text is kept as it is if it neither begins nor ends with a blank. -/
theorem trimBlanks_eq {s : List Char}
    (hhead : ∀ c ∈ s.head?, isBlank c = false)
    (hlast : ∀ c ∈ s.getLast?, isBlank c = false) : trimBlanks s = s := by
  have hstart : ∀ {t : List Char}, (∀ c ∈ t.head?, isBlank c = false) →
      trimBlankStart t = t := by
    intro t ht
    cases t with
    | nil => rfl
    | cons c t =>
        refine List.dropWhile_cons_of_neg ?_
        rw [ht c rfl]
        exact Bool.false_ne_true
  unfold trimBlanks
  rw [hstart hhead, hstart (by rwa [List.head?_reverse]),
    List.reverse_reverse]

/-- A digit is no blank. -/
theorem isBlank_of_isDigit {c : Char} (h : c.isDigit = true) :
    isBlank c = false := by
  have hc := Digits.toNat_of_isDigit h
  have hblank : c ≠ ' ' := by
    rintro rfl
    exact absurd hc.1 (by decide)
  have hwide : c.toNat ∉ Text.wideBlanks := by
    simp [Text.wideBlanks]
    omega
  simp [isBlank, hblank, hwide]
  omega

/-- Readers of numbers skip blanks, of which digits are none. -/
theorem trimBlankStart_digits {width : Nat} (hwidth : 0 < width)
    (ds : Digits width) (s : List Char) :
    trimBlankStart (ds.chars ++ s) = ds.chars ++ s := by
  obtain ⟨c, cs, hchars⟩ := ds.exists_cons hwidth
  have hblank : ¬ isBlank c = true := by
    rw [isBlank_of_isDigit (ds.isDigit c (hchars ▸ List.mem_cons_self))]
    exact Bool.false_ne_true
  rw [hchars]
  exact List.dropWhile_cons_of_neg hblank

/-- A text that ends with digits does not end with a blank. -/
theorem getLast?_digits {width : Nat} (hwidth : 0 < width)
    (ds : Digits width) (s : List Char) :
    ∀ c ∈ (s ++ ds.chars).getLast?, isBlank c = false := by
  intro c hc
  obtain ⟨d, hd⟩ : ∃ d, ds.chars.getLast? = some d := by
    obtain ⟨e, es, hchars⟩ := ds.exists_cons hwidth
    rw [hchars]
    exact ⟨_, List.getLast?_eq_some_getLast (List.cons_ne_nil e es)⟩
  rw [List.getLast?_append, hd] at hc
  obtain rfl : d = c := Option.some.inj hc
  exact isBlank_of_isDigit (ds.isDigit d (List.mem_of_getLast? hd))

-- =============================================================== numbers

namespace Stamp

/-- Digits are read as their number, if there are neither too few nor too
many, and those that may be read stop where the digits do. -/
theorem number?_append (lo hi : Nat) {ds s : List Char}
    (hds : ∀ c ∈ ds, c.isDigit = true) (hlo : lo ≤ ds.length)
    (hhi : ds.length ≤ hi) (hs : ds.length = hi ∨ EndsDigits s) :
    number? lo hi (ds ++ s) = some (Nat.ofDigitChars 10 ds 0, s) := by
  have htake : ((ds ++ s).take hi).takeWhile Char.isDigit = ds := by
    rw [List.take_append, List.take_of_length_le hhi]
    refine congrArg Prod.fst (digits_append hds ?_)
    rcases hs with hs | hs
    · rw [hs, Nat.sub_self, List.take_zero]
      exact endsDigits_nil
    · intro c hc
      refine hs c ?_
      rw [List.head?_take] at hc
      split at hc
      · cases hc
      · exact hc
  unfold number?
  simp only [htake, List.drop_left', if_neg (Nat.not_lt.2 hlo)]
  rfl

/-- As many digits as must be there are read. -/
theorem number?_digits {width : Nat} (ds : Digits width) (s : List Char) :
    number? width width (ds.chars ++ s) = some (ds.value, s) :=
  number?_append width width ds.isDigit (Nat.le_of_eq ds.length.symm)
    (Nat.le_of_eq ds.length) (.inl ds.length)

/-- Where there is no digit, no number is read. -/
theorem number?_of_endsDigits {lo hi : Nat} {s : List Char} (hlo : 0 < lo)
    (h : EndsDigits s) : number? lo hi s = none := by
  have hnone : (s.take hi).takeWhile Char.isDigit = [] := by
    cases hi with
    | zero => rfl
    | succ hi =>
        cases s with
        | nil => rfl
        | cons c s =>
            rw [List.take_succ_cons, List.takeWhile_cons_of_neg]
            rw [h c rfl]
            exact Bool.false_ne_true
  unfold number?
  simp only [hnone, List.length_nil, if_pos hlo]

/-- What is read has no more digits than may be read. -/
theorem number?_lt {lo hi n : Nat} {s rest : List Char}
    (h : number? lo hi s = some (n, rest)) : n < 10 ^ hi := by
  unfold number? at h
  dsimp only at h
  split at h
  · cases h
  · obtain ⟨rfl, -⟩ := Prod.mk.inj (Option.some.inj h)
    refine Nat.lt_of_lt_of_le (Digits.ofDigitChars_lt fun c hc =>
      List.all_eq_true.1 List.all_takeWhile c hc) ?_
    refine Nat.pow_le_pow_right (Nat.succ_pos 9) ?_
    exact Nat.le_trans (List.takeWhile_sublist _).length_le
      (List.length_take_le hi s)

/-- Blanks are skipped in front of a number, but digits are none. -/
theorem loose?_digits {width : Nat} (hwidth : 0 < width) (ds : Digits width)
    (s : List Char) : loose? width (ds.chars ++ s) = some (ds.value, s) := by
  unfold loose?
  rw [trimBlankStart_digits hwidth]
  exact number?_append 1 width ds.isDigit (by rw [ds.length]; exact hwidth)
    (Nat.le_of_eq ds.length) (.inl ds.length)

theorem char?_self (c : Char) (s : List Char) :
    char? c (c :: s) = some s := if_pos rfl

end Stamp
end SecurityConsole.Time
