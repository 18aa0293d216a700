/-
Time stamps are shown alike, however they are written.

A stamp without a zone is on the clocks of the user, so it shows as it is
written (`show_plain`), and so does the stamp with the zone of the user
behind it. A stamp with a zone shows what it denotes, so all that denote
one instant show alike (`show_zoned`). And what is shown can be read: it is
a stamp without a zone in the last of the styles, to the minute, and it
shows as itself (`showDateTime_again`). All three come together in
`stamps_show_alike`.

The clocks of a zone may show a day that there is no four-digit year for,
before year zero or behind year 9999. Its year is shown with a sign, which
no stamp with a zone may have, but one without may.
-/
import SecurityConsole.Proofs.Time.Reading

namespace SecurityConsole.Time

open Json.Numeral (EndsDigits endsDigits_cons)
open Moment (padded daySeconds dateText dateTimeText)

-- ============================================================= moments

namespace Moment

/-- A moment to the minute. -/
def toMinute (m : Moment) : Moment :=
  { day := m.day, second := m.second / 60 * 60, nano := 0 }

/-- Seconds are not shown. -/
theorem dateTimeText_toMinute (m : Moment) :
    m.toMinute.dateTimeText = m.dateTimeText := by
  have hhour : m.second / 60 * 60 / 3600 = m.second / 3600 := by omega
  have hminute : m.second / 60 * 60 / 60 % 60 = m.second / 60 % 60 := by
    omega
  unfold dateTimeText dateText toMinute
  simp only [hhour, hminute]

/-- Clocks that are whole minutes ahead begin their minutes with those of
universal time. -/
theorem toMinute_shift (m : Moment) (k : Int) :
    (m.shift (60 * k)).toMinute = m.toMinute.shift (60 * k) := by
  simp only [toMinute, shift, seconds, daySeconds]
  congr 1 <;> omega

end Moment

-- =========================================================== what is shown

/-- A date is shown as its three numbers with dashes between them. -/
theorem toList_dateText (m : Moment) :
    m.dateText.toList = (Moment.yearText (Date.ofDay m.day).year).toList
      ++ ('-' :: ((padded 2 (Date.ofDay m.day).month).toList
        ++ ('-' :: (padded 2 (Date.ofDay m.day).day).toList))) := by
  have hdash : "-".toList = ['-'] := rfl
  unfold dateText
  simp only [String.toList_append, List.append_assoc, hdash,
    List.cons_append, List.nil_append]

/-- A time is shown behind it, to the minute. -/
theorem toList_dateTimeText (m : Moment) :
    m.dateTimeText.toList = m.dateText.toList
      ++ (' ' :: ((padded 2 (m.second / 3600).toNat).toList
        ++ (':' :: (padded 2 (m.second / 60 % 60).toNat).toList))) := by
  have hblank : " ".toList = [' '] := rfl
  have hcolon : ":".toList = [':'] := rfl
  unfold dateTimeText
  simp only [String.toList_append, List.append_assoc, hblank, hcolon,
    List.cons_append, List.nil_append]

section
variable {w : Written} (h : w.IsReal)
include h

/-- The date of a written stamp is shown with the digits it has. -/
theorem dateText_clock : w.clock.dateText = String.ofList w.dateChars := by
  have hdate : Date.ofDay w.clock.day = w.date := Date.ofDay_toDay h.date
  have hyear : Moment.yearText w.date.year = padded 4 w.year.value := by
    have hlt := w.year.value_lt
    have hlow : ¬ w.date.year < 0 := by
      show ¬ (w.year.value : Int) < 0
      omega
    have hhigh : ¬ 9999 < w.date.year := by
      show ¬ 9999 < (w.year.value : Int)
      omega
    unfold Moment.yearText
    rw [if_neg hlow, if_neg hhigh]
    rfl
  rw [← String.toList_inj, toList_dateText, hdate, hyear,
    String.toList_ofList, w.year.padded_value (by decide)]
  have hmonth : w.date.month = w.month.value := rfl
  have hday : w.date.day = w.day.value := rfl
  rw [hmonth, hday, w.month.padded_value (by decide),
    w.day.padded_value (by decide)]
  rfl

/-- And so is the time to the minute. -/
theorem dateTimeText_clock : w.clock.dateTimeText
    = String.ofList (w.dateChars ++ ' ' :: w.minuteChars) := by
  have hclock : w.clock.second = w.hour.value * 3600 + w.minute.value * 60
      + min w.second.value 59 := rfl
  have hminute' := h.minute
  have hhour : (w.clock.second / 3600).toNat = w.hour.value := by omega
  have hminute : (w.clock.second / 60 % 60).toNat = w.minute.value := by
    omega
  rw [← String.toList_inj, toList_dateTimeText, dateText_clock h, hhour,
    hminute, String.toList_ofList, String.toList_ofList,
    w.hour.padded_value (by decide), w.minute.padded_value (by decide)]
  rfl

/-- What is shown of a stamp without a zone is what is written. -/
theorem clock_read (s : Int) :
    Reading.clock ⟨w.clock.shift (-s), s⟩ = w.clock := by
  obtain ⟨hlow, hhigh⟩ := second_clock h
  have hback := Moment.shift_neg_cancel hlow hhigh (-s)
  rwa [Int.neg_neg] at hback

end

-- ======================================================= shown and read

/-- A date and a time to the minute, as they are shown. -/
def shownChars (year : Int) (month day hour minute : Digits 2) : List Char :=
  (Moment.yearText year).toList ++ ('-' :: (month.chars ++ ('-' ::
    (day.chars ++ (' ' :: (hour.chars ++ (':' :: minute.chars)))))))

/-- A year is shown with four digits, or with a sign and digits. -/
theorem yearText_cases (year : Int) :
    (∃ ds : Digits 4, (ds.value : Int) = year
        ∧ (Moment.yearText year).toList = ds.chars)
      ∨ ∃ (sign : Char) (width : Nat) (ds : Digits width), 1 ≤ width
        ∧ (sign = '-' ∧ -(ds.value : Int) = year
          ∨ sign = '+' ∧ (ds.value : Int) = year)
        ∧ (Moment.yearText year).toList = sign :: ds.chars := by
  have hdigits := isDigit_padded 4 year.natAbs
  have hvalue := ofDigitChars_padded 4 year.natAbs
  have hone : 1 ≤ (padded 4 year.natAbs).toList.length := by
    rw [length_padded]
    omega
  obtain ⟨s, hs⟩ : ∃ s, (padded 4 year.natAbs).toList = s := ⟨_, rfl⟩
  rw [hs] at hdigits hvalue hone
  have hnumber : Digits.value ⟨s, rfl, hdigits⟩ = year.natAbs := hvalue
  unfold Moment.yearText
  by_cases hlow : year < 0
  · refine .inr ⟨'-', _, ⟨s, rfl, hdigits⟩, hone, .inl ⟨rfl, ?_⟩, ?_⟩
    · omega
    · rw [if_pos hlow, String.toList_append, hs]
      rfl
  · by_cases hhigh : 9999 < year
    · refine .inr ⟨'+', _, ⟨s, rfl, hdigits⟩, hone, .inr ⟨rfl, ?_⟩, ?_⟩
      · omega
      · rw [if_neg hlow, if_pos hhigh, String.toList_append, hs]
        rfl
    · refine .inl ⟨.ofNat 4 year.natAbs (by decide) (by omega), ?_, ?_⟩
      · rw [Digits.value_ofNat]
        omega
      · rw [if_neg hlow, if_neg hhigh, Digits.chars_ofNat]

/-- The year that is shown is read. -/
theorem year?_yearText (year : Int) (s : List Char) :
    Stamp.year? ((Moment.yearText year).toList ++ '-' :: s)
      = some (year, '-' :: s) := by
  obtain ⟨ds, hvalue, hchars⟩ | ⟨sign, width, ds, hone, hsign, hchars⟩ :=
    yearText_cases year
  · rw [hchars, Stamp.year?_digits, hvalue]
  · have hread := Stamp.number?_append 1 (ds.chars ++ '-' :: s).length
      ds.isDigit
      (by rw [ds.length]; exact hone) (by rw [List.length_append]; omega)
      (.inr (endsDigits_cons (by decide) : EndsDigits ('-' :: s)))
    rw [hchars, List.cons_append]
    obtain ⟨rfl, hyear⟩ | ⟨rfl, hyear⟩ := hsign
    · show ((Stamp.number? 1 _ _).map _ : Option (Int × List Char)) = _
      rw [hread, ← hyear]
      rfl
    · show ((Stamp.number? 1 _ _).map _ : Option (Int × List Char)) = _
      rw [hread, ← hyear]
      rfl

section
variable (year : Int) (month day hour minute : Digits 2)

/-- What is shown has no seconds, and may have a sign; so it is no stamp
with a zone. -/
theorem zoned?_shown :
    Stamp.zoned? (shownChars year month day hour minute) = none := by
  unfold shownChars Stamp.zoned?
  obtain ⟨ds, -, hchars⟩ | ⟨sign, width, ds, -, hsign, hchars⟩ :=
    yearText_cases year
  · have hminute : Stamp.number? 2 2 minute.chars
        = some (minute.value, []) := by
      have h := Stamp.number?_digits minute []
      rwa [List.append_nil] at h
    have hblank : ' ' ∈ ['T', 't', ' '] := by decide
    rw [hchars]
    simp only [Stamp.number?_digits, Stamp.char?_self, Stamp.some_bind,
      if_pos hblank, hminute]
    rfl
  · have hnone : ∀ s, Stamp.number? 4 4 (sign :: s) = none := by
      intro s
      refine Stamp.number?_of_endsDigits (by decide) (endsDigits_cons ?_)
      obtain ⟨rfl, -⟩ | ⟨rfl, -⟩ := hsign <;> decide
    rw [hchars, List.cons_append, hnone]
    rfl

/-- There is no letter between the date and the time. -/
theorem plain?_shown_letter :
    Stamp.plain? ⟨some 'T', true⟩ (shownChars year month day hour minute)
      = none := by
  unfold shownChars Stamp.plain?
  simp only [year?_yearText, Stamp.loose?_digits (Nat.succ_pos 1),
    Stamp.char?_self, Stamp.some_bind]
  rfl

theorem loose?_minute :
    Stamp.loose? 2 minute.chars = some (minute.value, []) := by
  have h := Stamp.loose?_digits (Nat.succ_pos 1) minute []
  rwa [List.append_nil] at h

theorem trimBlankStart_hour (s : List Char) :
    Text.trimBlankStart (' ' :: (hour.chars ++ s)) = hour.chars ++ s := by
  have hblank : Text.isBlank ' ' = true := by decide
  unfold Text.trimBlankStart
  rw [List.dropWhile_cons_of_pos hblank]
  exact trimBlankStart_digits (Nat.succ_pos 1) hour s

/-- Of the styles with a blank, it is not the one with seconds. -/
theorem plain?_shown_seconds :
    Stamp.plain? ⟨none, true⟩ (shownChars year month day hour minute)
      = none := by
  unfold shownChars Stamp.plain?
  simp only [year?_yearText, Stamp.loose?_digits (Nat.succ_pos 1),
    Stamp.char?_self, Stamp.some_bind, trimBlankStart_hour, loose?_minute,
    if_true]
  rfl

/-- What is shown is read in the style without seconds. -/
theorem plain?_shown :
    Stamp.plain? ⟨none, false⟩ (shownChars year month day hour minute)
      = Stamp.moment? ⟨year, month.value, day.value⟩ hour.value
          minute.value 0 0 := by
  unfold shownChars Stamp.plain?
  simp only [year?_yearText, Stamp.loose?_digits (Nat.succ_pos 1),
    Stamp.char?_self, Stamp.some_bind, trimBlankStart_hour, loose?_minute,
    Bool.false_eq_true, if_false, List.isEmpty_nil, if_true]
  exact Option.bind_fun_some _

/-- What is shown begins with a digit or a sign and ends with a digit,
so there is nothing to trim. -/
theorem trimBlanks_shown :
    Text.trimBlanks (shownChars year month day hour minute)
      = shownChars year month day hour minute := by
  refine trimBlanks_eq ?_ ?_
  · unfold shownChars
    obtain ⟨ds, -, hchars⟩ | ⟨sign, width, ds, -, hsign, hchars⟩ :=
      yearText_cases year
    · obtain ⟨c, cs, hyear⟩ := ds.exists_cons (by decide)
      rw [hchars, hyear]
      intro d hd
      obtain rfl : c = d := Option.some.inj hd
      exact isBlank_of_isDigit (ds.isDigit c (hyear ▸ List.mem_cons_self))
    · rw [hchars]
      intro d hd
      obtain rfl : sign = d := Option.some.inj hd
      obtain ⟨rfl, -⟩ | ⟨rfl, -⟩ := hsign <;> decide
  · have hend : shownChars year month day hour minute
        = ((Moment.yearText year).toList ++ ('-' :: (month.chars ++ ('-' ::
          (day.chars ++ (' ' :: (hour.chars ++ [':']))))))) ++ minute.chars := by
      simp [shownChars]
    rw [hend]
    exact getLast?_digits (by decide) minute _

end

section
variable {m : Moment} (hsecond : 0 ≤ m.second ∧ m.second < daySeconds)
include hsecond

/-- What is shown of a moment is a date that there is, and a time. -/
theorem dateTimeText_eq : ∃ month day hour minute : Digits 2,
    m.dateTimeText = String.ofList
        (shownChars (Date.ofDay m.day).year month day hour minute)
      ∧ Date.ofDay m.day
        = ⟨(Date.ofDay m.day).year, month.value, day.value⟩
      ∧ hour.value < 24 ∧ minute.value < 60
      ∧ (hour.value : Int) * 3600 + minute.value * 60
        = m.second / 60 * 60 := by
  obtain ⟨⟨-, hmonth⟩, -, -, hday⟩ :=
    Date.bounds_of_isValid (Date.isValid_ofDay m.day)
  unfold daySeconds at hsecond
  obtain ⟨month, hmonth, hmonth'⟩ := Digits.exists_padded 2
    (by decide) (by omega : (Date.ofDay m.day).month < 10 ^ 2)
  obtain ⟨day, hday, hday'⟩ := Digits.exists_padded 2
    (by decide) (by omega : (Date.ofDay m.day).day < 10 ^ 2)
  obtain ⟨hour, hhour, hhour'⟩ := Digits.exists_padded 2
    (by decide) (by omega : (m.second / 3600).toNat < 10 ^ 2)
  obtain ⟨minute, hminute, hminute'⟩ := Digits.exists_padded 2
    (by decide) (by omega : (m.second / 60 % 60).toNat < 10 ^ 2)
  refine ⟨month, day, hour, minute, ?_, ?_, ?_⟩
  · rw [← String.toList_inj, toList_dateTimeText, toList_dateText,
      String.toList_ofList, hmonth', hday', hhour', hminute']
    simp only [shownChars, List.append_assoc, List.cons_append]
  · rw [hmonth, hday]
  · omega

/-- What is shown of a moment is read as the moment, to the minute. -/
theorem read?_dateTimeText (hday : isDay m.day = true) (z : Zone) :
    read? z m.dateTimeText = z.reading? m.toMinute := by
  obtain ⟨month, day, hour, minute, htext, hdate, hhour, hminute, htime⟩ :=
    dateTimeText_eq hsecond
  have hmoment : Stamp.moment?
      ⟨(Date.ofDay m.day).year, month.value, day.value⟩ hour.value
        minute.value 0 0 = some m.toMinute := by
    unfold Stamp.moment?
    rw [← hdate, Date.toDay_ofDay, if_pos ⟨Date.isValid_ofDay m.day, hday,
      hhour, hminute, Nat.zero_le 60⟩]
    simp [Moment.toMinute, htime]
  rw [htext, read?_of_zoneless (trimBlanks_shown ..) (zoned?_shown ..)]
  simp only [Stamp.styles, List.findSome?_cons, List.findSome?_nil,
    plain?_shown_letter, plain?_shown_seconds, plain?_shown, hmoment,
    Option.bind_none, Option.bind_some]
  cases z.reading? m.toMinute <;> rfl

end

-- ============================================================ shown again

section
variable {k : Int} (hk : k.natAbs < 1440)
include hk

/-- What is shown of a reading is read as it, to the minute. -/
theorem read?_shown {text : String} {r : Reading}
    (h : read? (.ofMinutes k) text = some r) :
    read? (.ofMinutes k) r.clock.dateTimeText
      = some ⟨r.moment.toMinute, 60 * k⟩ := by
  obtain ⟨⟨hday, hsecond, hshown⟩, hoffset⟩ :=
    read?_within (by omega : (60 * k).natAbs < 86400) h
  have hclock : r.clock.toMinute = r.moment.toMinute.shift (60 * k) := by
    unfold Reading.clock
    rw [hoffset, Moment.toMinute_shift]
  have hback : r.clock.toMinute.shift (-(60 * k)) = r.moment.toMinute := by
    rw [hclock]
    refine Moment.shift_neg_cancel ?_ ?_ (60 * k)
    · show 0 ≤ r.moment.second / 60 * 60
      omega
    · show r.moment.second / 60 * 60 < daySeconds
      omega
  rw [read?_dateTimeText (m := r.clock) (Moment.second_shift _ _) hshown]
  simp only [Zone.reading?, Zone.ofMinutes, Zone.offsetOf?, hback]
  exact if_pos hday

/-- What is shown of a stamp is shown as itself. -/
theorem showDateTime_again (text : Option String) :
    showDateTime (.ofMinutes k) (some (showDateTime (.ofMinutes k) text))
      = showDateTime (.ofMinutes k) text := by
  cases h : text.bind (read? (.ofMinutes k)) with
  | none =>
      have hshown : showDateTime (.ofMinutes k) text = placeholder := by
        unfold showDateTime display
        rw [h]
        rfl
      rw [hshown]
      rfl
  | some r =>
      obtain ⟨t, -, hread⟩ := Option.bind_eq_some_iff.1 h
      have hshown : showDateTime (.ofMinutes k) text
          = r.clock.dateTimeText := by
        unfold showDateTime display
        rw [h]
        rfl
      obtain ⟨-, hoffset⟩ :=
        read?_within (by omega : (60 * k).natAbs < 86400) hread
      have hclock : Reading.clock ⟨r.moment.toMinute, 60 * k⟩
          = r.clock.toMinute := by
        unfold Reading.clock
        rw [hoffset, Moment.toMinute_shift]
      have hagain : showDateTime (.ofMinutes k) (some r.clock.dateTimeText)
          = (Reading.clock ⟨r.moment.toMinute, 60 * k⟩).dateTimeText := by
        unfold showDateTime display
        rw [Option.bind_some, read?_shown hk hread]
        rfl
      rw [hshown, hagain, hclock, Moment.dateTimeText_toMinute]

/-- A stamp without a zone shows what is written, if there are such a date
and such a time. -/
theorem show_plain (w : Written) :
    let text := String.ofList (w.chars 'T')
    showDateTime (.ofMinutes k) (some text)
        = (if w.IsReal then
            String.ofList (w.dateChars ++ ' ' :: w.minuteChars)
          else placeholder)
      ∧ showDate (.ofMinutes k) (some text)
        = if w.IsReal then String.ofList w.dateChars else placeholder := by
  intro text
  unfold showDateTime showDate display
  rw [Option.bind_some]
  by_cases h : w.IsReal
  · rw [read?_real hk h, if_pos h, if_pos h, ← dateTimeText_clock h,
      ← dateText_clock h]
    have hclock := clock_read h (60 * k)
    exact ⟨congrArg dateTimeText hclock, congrArg dateText hclock⟩
  · have hnone : read? (.ofMinutes k) text = none := by
      rw [read?_plain, if_neg h]
      rfl
    rw [hnone, if_neg h, if_neg h]
    exact ⟨rfl, rfl⟩

end

/-- A stamp with a zone shows the instant it denotes, on the clocks of the
zone given. -/
theorem show_zoned (k : Int) (s : Zoned) :
    let clock := s.instant.moment.shift (60 * k)
    showDateTime (.ofMinutes k) (some s.text) = clock.dateTimeText
      ∧ showDate (.ofMinutes k) (some s.text) = clock.dateText := by
  intro clock
  unfold showDateTime showDate display
  rw [Option.bind_some, read?_zoned]
  exact ⟨rfl, rfl⟩

/-- Time stamps are shown alike, in every zone whose clocks are whole
minutes ahead.

A stamp without a zone shows as it does with the zone behind it: as it is
written, or not at all if there is no such date or time. Stamps with zones
that denote one instant show alike: as that instant, on the clocks of the
zone. And what is shown, of whatever text or of none, shows as itself. -/
theorem stamps_show_alike {k : Int} (hk : k.natAbs < 1440) {z : Zone}
    (hz : z = .ofMinutes k) :
    (∀ w : Written,
        let text := String.ofList (w.chars 'T')
        showDateTime z (some text)
            = showDateTime z (some (text ++ offsetText k))
          ∧ showDate z (some text)
            = showDate z (some (text ++ offsetText k))
          ∧ showDateTime z (some text)
            = (if w.IsReal then
                String.ofList (w.dateChars ++ ' ' :: w.minuteChars)
              else placeholder)
          ∧ showDate z (some text)
            = if w.IsReal then String.ofList w.dateChars else placeholder)
      ∧ (∀ s s' : Zoned, s.instant = s'.instant →
          let clock := s.instant.moment.shift (60 * k)
          showDateTime z (some s.text) = showDateTime z (some s'.text)
            ∧ showDate z (some s.text) = showDate z (some s'.text)
            ∧ showDateTime z (some s.text) = clock.dateTimeText
            ∧ showDate z (some s.text) = clock.dateText)
      ∧ ∀ text : Option String,
          showDateTime z (some (showDateTime z text))
            = showDateTime z text := by
  subst hz
  refine ⟨fun w => ?_, fun s s' hinstant => ?_, showDateTime_again hk⟩
  · have hown := read?_own hk w
    have hshown : ∀ shown : Reading → String,
        display (.ofMinutes k) (some (String.ofList (w.chars 'T'))) shown
          = display (.ofMinutes k)
              (some (String.ofList (w.chars 'T') ++ offsetText k))
              shown := by
      intro shown
      unfold display
      rw [Option.bind_some, Option.bind_some, hown]
    exact ⟨hshown _, hshown _, show_plain hk w⟩
  · obtain ⟨hdateTime, hdate⟩ := show_zoned k s
    obtain ⟨hdateTime', hdate'⟩ := show_zoned k s'
    rw [← hinstant] at hdateTime' hdate'
    exact ⟨hdateTime.trans hdateTime'.symm, hdate.trans hdate'.symm,
      hdateTime, hdate⟩

/-- The leap second behind the last day that four digits of a year are
enough for. -/
def lastSecond : Written :=
  { year := .ofNat 4 9999 (by decide) (by decide)
    month := .ofNat 2 12 Nat.two_pos (by decide)
    day := .ofNat 2 31 Nat.two_pos (by decide)
    hour := .ofNat 2 23 Nat.two_pos (by decide)
    minute := .ofNat 2 59 Nat.two_pos (by decide)
    second := .ofNat 2 60 Nat.two_pos (by decide)
    fraction := none }

theorem lastSecond_isReal : lastSecond.IsReal := by decide +kernel

/-- In Shanghai, the last second falls on the first morning of the year
10000: so shows the stamp of universal time, and so shows what is shown.
Without a zone, it is still evening. -/
theorem last_second_in_shanghai :
    let z := Zone.ofMinutes 480
    let s : Zoned := ⟨lastSecond, lastSecond_isReal, 'T', by decide,
      .universal 'Z' (.inl rfl)⟩
    (480 : Int).natAbs < 1440
      ∧ s.text = "9999-12-31T23:59:60Z"
      ∧ showDateTime z (some s.text) = "+10000-01-01 07:59"
      ∧ showDateTime z (some "+10000-01-01 07:59") = "+10000-01-01 07:59"
      ∧ showDateTime z (some "9999-12-31T23:59:60+08:00")
        = "9999-12-31 23:59" := by
  intro z s
  obtain ⟨hown, hsame, hagain⟩ :=
    stamps_show_alike (by decide : (480 : Int).natAbs < 1440)
      (rfl : z = .ofMinutes 480)
  have hshown : showDateTime z (some s.text) = "+10000-01-01 07:59" :=
    (hsame s s rfl).2.2.1.trans (by decide +kernel)
  have hplain : showDateTime z (some "9999-12-31T23:59:60")
      = "9999-12-31 23:59" := by decide +kernel
  refine ⟨by decide, by decide +kernel, hshown, ?_, ?_⟩
  · have h := hagain (some s.text)
    rwa [hshown] at h
  · have htext : String.ofList (lastSecond.chars 'T')
        = "9999-12-31T23:59:60" := by decide +kernel
    have howntext : "9999-12-31T23:59:60" ++ offsetText 480
        = "9999-12-31T23:59:60+08:00" := by decide +kernel
    have h := (hown lastSecond).1
    rw [htext, howntext] at h
    exact h.symm.trans hplain

end SecurityConsole.Time
