/-
Time stamps as they are written.

A stamp is a date and a time with digits for every number, and perhaps a
fraction (`Written`); one with a zone has the zone behind it (`ZoneText`).
The readers of stamps read what was written (`zoned?_append`,
`plain?_append`): whether there is such a date and such a time is all that
is left to find out. What a stamp with a zone denotes is told without a reader
(`Written.instant`), and the moment that is read is the one it denotes
(`Instant.moment`).
-/
import Mathlib.Algebra.Order.Floor.Semifield
import Mathlib.Data.Rat.Floor
import SecurityConsole.Proofs.Time.Calendar
import SecurityConsole.Proofs.Time.Digits

namespace SecurityConsole.Time

open Json.Numeral (EndsDigits endsDigits_cons digits_append)
open Moment (padded daySeconds)

theorem isDay_iff {n : Int} :
    isDay n = true ↔ firstDay ≤ n ∧ n ≤ lastDay := by
  simp [isDay]

-- ============================================================== fractions

/-- The digits of a fraction of a second: one or more. -/
structure Fraction where
  size : Nat
  digits : Digits (size + 1)

namespace Fraction

/-- The part of a second that a fraction is. -/
def value (f : Fraction) : ℚ := f.digits.value / 10 ^ (f.size + 1)

/-- The whole nanoseconds of a fraction. -/
def nanos (f : Fraction) : Nat := ⌊f.value * 10 ^ 9⌋₊

/-- The nanoseconds of a fraction are its digits, scaled and rounded
down; digits beyond the ninth do not count. -/
theorem nanos_eq (f : Fraction) :
    f.nanos = f.digits.value * 10 ^ 9 / 10 ^ (f.size + 1) := by
  have h := Nat.floor_div_eq_div (K := ℚ) (f.digits.value * 10 ^ 9)
    (10 ^ (f.size + 1))
  rw [← h]
  unfold nanos value
  simp only [Nat.cast_mul, Nat.cast_pow, Nat.cast_ofNat, div_mul_eq_mul_div]

/-- The first nine digits tell the whole nanoseconds. -/
theorem nanos_of_append {f : Fraction} {front back : List Char}
    (hdigits : f.digits.chars = front ++ back) (hfront : front.length ≤ 9)
    (hback : back ≠ [] → front.length = 9) :
    f.nanos
      = Nat.ofDigitChars 10 front 0 * 10 ^ (9 - front.length) := by
  have hsize : f.size + 1 = front.length + back.length := by
    rw [← f.digits.length, hdigits, List.length_append]
  have hvalue : f.digits.value
      = 10 ^ back.length * Nat.ofDigitChars 10 front 0
        + Nat.ofDigitChars 10 back 0 := by
    unfold Digits.value
    rw [hdigits, Nat.ofDigitChars_append,
      Nat.ofDigitChars_eq_ofDigitChars_zero]
  have hlt : Nat.ofDigitChars 10 back 0 < 10 ^ back.length := by
    refine Digits.ofDigitChars_lt fun c hc => f.digits.isDigit c ?_
    rw [hdigits]
    exact List.mem_append_right front hc
  rw [nanos_eq, hvalue, hsize]
  cases hb : back with
  | nil =>
      have hpow : 10 ^ 9 = 10 ^ (9 - front.length) * 10 ^ front.length := by
        rw [← Nat.pow_add, Nat.sub_add_cancel hfront]
      rw [List.length_nil, Nat.ofDigitChars_nil, hpow, ← Nat.mul_assoc]
      simp only [Nat.pow_zero, Nat.one_mul, Nat.add_zero]
      exact Nat.mul_div_left _ (Nat.pow_pos (Nat.succ_pos 9))
  | cons c cs =>
      rw [← hb]
      have hnine := hback (hb ▸ List.cons_ne_nil c cs)
      rw [hnine, Nat.sub_self, Nat.pow_zero, Nat.mul_one, Nat.pow_add,
        Nat.mul_comm (10 ^ 9) (10 ^ back.length),
        Nat.mul_div_mul_right _ _ (Nat.pow_pos (Nat.succ_pos 9)),
        Nat.mul_add_div (Nat.pow_pos (Nat.succ_pos 9)),
        Nat.div_eq_of_lt hlt, Nat.add_zero]

end Fraction

/-- A fraction as it is written, if there is one. -/
def fractionChars : Option Fraction → List Char
  | none => []
  | some f => '.' :: f.digits.chars

/-- A fraction that was written is read as its whole nanoseconds. -/
theorem Stamp.fraction?_append (f : Option Fraction) {s : List Char}
    (hpoint : '.' ∉ s.head?) (hs : EndsDigits s) :
    fraction? (fractionChars f ++ s)
      = some ((f.map Fraction.nanos).getD 0, s) := by
  cases f with
  | none =>
      cases s with
      | nil => rfl
      | cons c s =>
          have hc : c ≠ '.' := fun h => hpoint (h ▸ rfl)
          unfold fractionChars fraction?
          rw [List.nil_append]
          split
          · rename_i heq
            exact absurd (List.cons.inj heq).1 hc
          · rfl
  | some f =>
      -- nine digits are read as a number; those behind them are skipped
      let front := f.digits.chars.take 9
      let back := f.digits.chars.drop 9
      have hdigits : f.digits.chars = front ++ back :=
        (List.take_append_drop 9 _).symm
      have hfront : front.length ≤ 9 := List.length_take_le 9 _
      have hback : back ≠ [] → front.length = 9 := fun h =>
        List.length_take_of_le
          (Nat.le_of_lt (Nat.lt_of_not_le fun hle =>
            h (List.drop_of_length_le hle)))
      have hof : ∀ c ∈ front ++ back, c.isDigit = true :=
        hdigits ▸ f.digits.isDigit
      have hone : 1 ≤ front.length := by
        have hlength := f.digits.length
        rw [List.length_take]
        omega
      -- the number stops at nine digits or where the digits stop
      have hends : front.length = 9 ∨ EndsDigits (back ++ s) := by
        by_cases hb : back = []
        · rw [hb]
          exact .inr hs
        · exact .inl (hback hb)
      have hread := number?_append 1 9
        (fun c hc => hof c (List.mem_append_left back hc)) hone hfront hends
      have hdrop : (back ++ s).dropWhile Char.isDigit = s := by
        refine congrArg Prod.snd (digits_append ?_ hs)
        exact fun c hc => hof c (List.mem_append_right front hc)
      have hcount : (front ++ (back ++ s)).length - (back ++ s).length
          = front.length := by
        rw [List.length_append, Nat.add_sub_cancel]
      show fraction? ('.' :: (f.digits.chars ++ s)) = some (f.nanos, s)
      rw [hdigits, List.append_assoc, Fraction.nanos_of_append hdigits hfront hback]
      simp only [fraction?, hread, hdrop, hcount, Option.bind_eq_bind,
        Option.bind_some]
      rfl

-- ======================================================= date and time

/-- A date and a time as they are written. -/
structure Written where
  year : Digits 4
  month : Digits 2
  day : Digits 2
  hour : Digits 2
  minute : Digits 2
  second : Digits 2
  fraction : Option Fraction

namespace Written

def dateChars (w : Written) : List Char :=
  w.year.chars ++ '-' :: (w.month.chars ++ '-' :: w.day.chars)

/-- The time to the minute. -/
def minuteChars (w : Written) : List Char :=
  w.hour.chars ++ ':' :: w.minute.chars

/-- A date and a time with a character between them. -/
def chars (w : Written) (divider : Char) : List Char :=
  w.dateChars ++ divider ::
    (w.minuteChars ++ ':' :: (w.second.chars ++ fractionChars w.fraction))

def date (w : Written) : Date := ⟨w.year.value, w.month.value, w.day.value⟩

/-- Whether there are such a date and such a time. A minute may have a leap
second. -/
structure IsReal (w : Written) : Prop where
  date : w.date.isValid = true
  hour : w.hour.value < 24
  minute : w.minute.value < 60
  second : w.second.value ≤ 60

instance (w : Written) : Decidable w.IsReal :=
  decidable_of_iff (w.date.isValid = true ∧ w.hour.value < 24
      ∧ w.minute.value < 60 ∧ w.second.value ≤ 60)
    ⟨fun h => ⟨h.1, h.2.1, h.2.2.1, h.2.2.2⟩,
      fun h => ⟨h.date, h.hour, h.minute, h.second⟩⟩

def nanos (w : Written) : Nat := (w.fraction.map Fraction.nanos).getD 0

/-- The clock time of a date and a time that there are. -/
def clock (w : Written) : Moment :=
  { day := w.date.toDay
    second := w.hour.value * 3600 + w.minute.value * 60
      + min w.second.value 59
    nano := if w.second.value = 60 then w.nanos + 1000000000 else w.nanos }

variable {w : Written}

/-- A date of four digits is far from the ends of the calendar. -/
theorem date_within (h : w.IsReal) :
    firstDay + 2 ≤ w.date.toDay ∧ w.date.toDay + 2 ≤ lastDay :=
  Date.toDay_within h.date (Int.natCast_nonneg _)
    (Int.le_of_lt_add_one (Int.ofNat_lt.2 w.year.value_lt))

/-- The reader asks for such a date and such a time. -/
theorem moment?_eq (w : Written) :
    Stamp.moment? w.date w.hour.value w.minute.value w.second.value w.nanos
      = if w.IsReal then some w.clock else none := by
  unfold Stamp.moment?
  by_cases h : w.IsReal
  · obtain ⟨hfirst, hlast⟩ := date_within h
    have hday : isDay w.date.toDay = true := by
      rw [isDay_iff]
      omega
    rw [if_pos h, if_pos ⟨h.date, hday, h.hour, h.minute, h.second⟩]
    rfl
  · rw [if_neg h, if_neg fun ⟨hdate, _, hhour, hminute, hsecond⟩ =>
      h ⟨hdate, hhour, hminute, hsecond⟩]

end Written

-- ================================================================== zones

/-- What follows a stamp that tells its zone: a letter for universal time,
or how far the clocks are ahead or behind. -/
inductive ZoneText where
  | universal (letter : Char) (h : letter = 'Z' ∨ letter = 'z')
  | clocks (sign : Char) (h : sign = '+' ∨ sign = '-' ∨ sign = '\u2212')
      (hours minutes : Digits 2) (hhours : hours.value < 24)
      (hminutes : minutes.value < 60)

namespace ZoneText

def chars : ZoneText → List Char
  | .universal letter _ => [letter]
  | .clocks sign _ hours minutes _ _ =>
    sign :: (hours.chars ++ ':' :: minutes.chars)

/-- How far the clocks are ahead, in seconds. -/
def seconds : ZoneText → Int
  | .universal _ _ => 0
  | .clocks sign _ hours minutes _ _ =>
    if sign = '+' then hours.value * 3600 + minutes.value * 60
    else -(hours.value * 3600 + minutes.value * 60)

/-- The zone behind a stamp is read to the end. -/
theorem offset?_chars (o : ZoneText) :
    Stamp.offset? o.chars = some (o.seconds, []) := by
  cases o with
  | universal letter h => exact if_pos h
  | clocks sign h hours minutes hhours hminutes =>
      have hletter : ¬ (sign = 'Z' ∨ sign = 'z') := by
        rcases h with rfl | rfl | rfl <;> decide
      have hminutes? : Stamp.number? 2 2 minutes.chars
          = some (minutes.value, []) := by
        have h := Stamp.number?_digits minutes []
        rwa [List.append_nil] at h
      simp only [chars, Stamp.offset?, if_neg hletter, if_pos h,
        Stamp.number?_digits, Stamp.char?_self, hminutes?,
        Option.bind_eq_bind, Option.bind_some,
        if_pos (And.intro hhours hminutes)]
      rfl

/-- The text of a zone begins neither with a digit nor with a point. -/
theorem chars_ends (o : ZoneText) :
    '.' ∉ o.chars.head? ∧ EndsDigits o.chars := by
  cases o with
  | universal letter h =>
      rcases h with rfl | rfl <;>
        exact ⟨by decide, endsDigits_cons (by decide)⟩
  | clocks sign h hours minutes _ _ =>
      rcases h with rfl | rfl | rfl <;>
        exact ⟨by simp [chars], endsDigits_cons (by decide)⟩

end ZoneText

-- ================================================================ reading

namespace Stamp

/-- A step that has read something hands it on to the next one. -/
theorem some_bind {α β : Type} (a : α) (f : α → Option β) :
    (some a >>= f) = f a := rfl

/-- Four digits are read as a year. -/
theorem year?_digits (ds : Digits 4) (s : List Char) :
    year? (ds.chars ++ s) = some ((ds.value : Int), s) := by
  obtain ⟨c, cs, hchars⟩ := ds.exists_cons (by decide)
  have hc := ds.isDigit c (hchars ▸ List.mem_cons_self)
  have hread := number?_append 1 4 ds.isDigit
    (by rw [ds.length]; decide) (Nat.le_of_eq ds.length) (.inl ds.length)
      (s := s)
  unfold year?
  rw [trimBlankStart_digits (by decide)]
  rw [hchars] at hread ⊢
  rw [List.cons_append] at hread ⊢
  split
  · rename_i rest heq
    rw [(List.cons.inj heq).1] at hc
    exact absurd hc (by decide)
  · rename_i rest heq
    rw [(List.cons.inj heq).1] at hc
    exact absurd hc (by decide)
  · rw [hread, ← hchars]
    rfl

section
variable (w : Written) {s : List Char}

/-- A stamp with more behind it, number by number, as the readers meet
it. -/
theorem chars_append (divider : Char) (s : List Char) :
    w.chars divider ++ s = w.year.chars ++ ('-' :: (w.month.chars
      ++ ('-' :: (w.day.chars ++ (divider :: (w.hour.chars ++ (':' ::
        (w.minute.chars ++ (':' :: (w.second.chars
          ++ (fractionChars w.fraction ++ s))))))))))) := by
  simp only [Written.chars, Written.dateChars, Written.minuteChars,
    List.append_assoc, List.cons_append]

/-- A stamp with a zone is read as far as the zone. -/
theorem zoned?_append {divider : Char} (h : divider ∈ ['T', 't', ' '])
    (hpoint : '.' ∉ s.head?) (hs : EndsDigits s) :
    zoned? (w.chars divider ++ s) = (offset? s).bind fun r =>
      (if w.IsReal then some w.clock else none).bind fun m =>
        if r.2.isEmpty then some (m.shift (-r.1)) else none := by
  rw [← Written.moment?_eq, chars_append]
  unfold zoned?
  simp only [number?_digits, char?_self, some_bind, if_pos h,
    fraction?_append w.fraction hpoint hs]
  rfl

/-- A stamp without a zone is read to its end. -/
theorem plain?_append (hpoint : '.' ∉ s.head?) (hs : EndsDigits s) :
    plain? ⟨some 'T', true⟩ (w.chars 'T' ++ s)
      = (if w.IsReal then some w.clock else none).bind fun m =>
        if s.isEmpty then some m else none := by
  rw [← Written.moment?_eq, chars_append]
  unfold plain?
  simp only [year?_digits, loose?_digits (Nat.succ_pos 1), char?_self,
    some_bind, if_true, fraction?_append w.fraction hpoint hs]
  rfl

/-- A style with blanks between date and time does not take a letter for
them. -/
theorem plain?_of_blanks (hasSeconds : Bool) (s : List Char) :
    plain? ⟨none, hasSeconds⟩ (w.chars 'T' ++ s) = none := by
  have hletter : ∀ t, loose? 2 (Text.trimBlankStart ('T' :: t)) = none := by
    intro t
    exact number?_of_endsDigits Nat.one_pos
      (endsDigits_cons (c := 'T') (by decide))
  rw [chars_append]
  unfold plain?
  simp only [year?_digits, loose?_digits (Nat.succ_pos 1), char?_self,
    some_bind, hletter]
  rfl

end
end Stamp

-- ================================================================ blanks

section
variable (w : Written) (divider : Char)

/-- Blanks in front and behind are taken off, but a stamp has none. -/
theorem trimBlanks_append {s : List Char}
    (hlast : ∀ c ∈ (w.chars divider ++ s).getLast?,
      Text.isBlank c = false) :
    Text.trimBlanks (w.chars divider ++ s) = w.chars divider ++ s := by
  refine trimBlanks_eq ?_ hlast
  obtain ⟨c, cs, hyear⟩ := w.year.exists_cons (by decide)
  rw [Stamp.chars_append, hyear]
  intro d hd
  obtain rfl : c = d := Option.some.inj hd
  exact isBlank_of_isDigit
    (w.year.isDigit c (hyear ▸ List.mem_cons_self))

/-- A stamp ends with a digit, of its fraction or of its seconds. -/
theorem trimBlanks_chars :
    Text.trimBlanks (w.chars divider) = w.chars divider := by
  have h := trimBlanks_append w divider (s := [])
  rw [List.append_nil] at h
  refine h ?_
  unfold Written.chars
  cases hfraction : w.fraction with
  | none =>
      have hend : w.dateChars ++ divider :: (w.minuteChars ++ ':' ::
            (w.second.chars ++ fractionChars none))
          = (w.dateChars ++ divider :: (w.minuteChars ++ [':']))
            ++ w.second.chars := by
        simp [fractionChars]
      rw [hend]
      exact getLast?_digits (by decide) w.second _
  | some f =>
      have hend : w.dateChars ++ divider :: (w.minuteChars ++ ':' ::
            (w.second.chars ++ fractionChars (some f)))
          = (w.dateChars ++ divider :: (w.minuteChars ++ ':' ::
              (w.second.chars ++ ['.']))) ++ f.digits.chars := by
        simp [fractionChars]
      rw [hend]
      exact getLast?_digits (Nat.succ_pos f.size) f.digits _

/-- And a zone ends with one, or with its letter. -/
theorem trimBlanks_zone (o : ZoneText) :
    Text.trimBlanks (w.chars divider ++ o.chars)
      = w.chars divider ++ o.chars := by
  refine trimBlanks_append w divider ?_
  cases o with
  | universal letter h =>
      intro c hc
      rw [List.getLast?_append] at hc
      obtain rfl : letter = c := Option.some.inj hc
      rcases h with rfl | rfl <;> decide
  | clocks sign h hours minutes hhours hminutes =>
      have hend : w.chars divider
            ++ (ZoneText.clocks sign h hours minutes hhours hminutes).chars
          = (w.chars divider ++ sign :: (hours.chars ++ [':']))
            ++ minutes.chars := by
        simp [ZoneText.chars]
      rw [hend]
      exact getLast?_digits (by decide) minutes _

end

-- ============================================================== instants

/-- A point in time: the seconds of universal time since day zero, without
leap seconds; whether it is in the leap second behind the second; and the
part of a second that has passed since. -/
structure Instant where
  seconds : Int
  isLeap : Bool
  fraction : ℚ

/-- An instant on the clocks of universal time, to the nanosecond. -/
def Instant.moment (i : Instant) : Moment :=
  { day := i.seconds / daySeconds
    second := i.seconds % daySeconds
    nano := ⌊i.fraction * 10 ^ 9⌋₊ + if i.isLeap then 1000000000 else 0 }

/-- What a stamp with a zone denotes. -/
def Written.instant (w : Written) (o : ZoneText) : Instant :=
  { seconds := w.date.toDay * daySeconds + w.hour.value * 3600
      + w.minute.value * 60 + min w.second.value 59 - o.seconds
    isLeap := w.second.value = 60
    fraction := (w.fraction.map Fraction.value).getD 0 }

theorem Written.nanos_eq (w : Written) (o : ZoneText) :
    w.nanos = ⌊(w.instant o).fraction * 10 ^ 9⌋₊ := by
  unfold nanos instant
  cases w.fraction with
  | none => simp
  | some f => rfl

/-- The moment of a stamp with a zone is that of what it denotes. -/
theorem Written.shift_clock (w : Written) (o : ZoneText) :
    w.clock.shift (-o.seconds) = (w.instant o).moment := by
  have hseconds : w.clock.seconds + -o.seconds
      = (w.instant o).seconds := by
    simp only [Moment.seconds, clock, instant]
    omega
  have hnano : w.clock.nano = (w.instant o).moment.nano := by
    unfold clock Instant.moment
    rw [← nanos_eq]
    simp only [instant, decide_eq_true_eq]
    split <;> omega
  unfold Moment.shift
  rw [hseconds, hnano]
  rfl

/-- A stamp that follows the standard for dates on the internet: a date and
a time that there are, and a zone. -/
structure Zoned where
  written : Written
  isReal : written.IsReal
  divider : Char
  isDivider : divider ∈ ['T', 't', ' ']
  zone : ZoneText

namespace Zoned

def text (s : Zoned) : String :=
  String.ofList (s.written.chars s.divider ++ s.zone.chars)

def instant (s : Zoned) : Instant := s.written.instant s.zone

end Zoned

-- ======================================================== whole minutes

/-- How a zone is written whose clocks are so many minutes ahead: a sign,
hours and minutes. -/
def offsetText (k : Int) : String :=
  (if k < 0 then "-" else "+") ++ padded 2 (k.natAbs / 60) ++ ":"
    ++ padded 2 (k.natAbs % 60)

section
variable {k : Int} (h : k.natAbs < 1440)

/-- The text of such a zone, if it is within a day. -/
def ZoneText.ofMinutes : ZoneText :=
  .clocks (if k < 0 then '-' else '+') (by split <;> simp)
    (.ofNat 2 (k.natAbs / 60) Nat.two_pos (by omega))
    (.ofNat 2 (k.natAbs % 60) Nat.two_pos (by omega))
    (by rw [Digits.value_ofNat]; omega) (by rw [Digits.value_ofNat]; omega)

/-- An offset of whole minutes is written by hours and minutes, and read
as what it is. -/
theorem ZoneText.seconds_ofMinutes :
    (ofMinutes h).seconds = 60 * k := by
  unfold ofMinutes seconds
  dsimp only
  rw [Digits.value_ofNat, Digits.value_ofNat]
  by_cases hk : k < 0
  · rw [if_pos hk, if_neg (by decide)]
    omega
  · rw [if_neg hk, if_pos rfl]
    omega

theorem toList_offsetText :
    (offsetText k).toList = (ZoneText.ofMinutes h).chars := by
  unfold offsetText ZoneText.ofMinutes ZoneText.chars
  dsimp only
  rw [Digits.chars_ofNat, Digits.chars_ofNat]
  split <;> simp

end
end SecurityConsole.Time
