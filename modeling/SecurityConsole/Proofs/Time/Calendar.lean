/-
The calendar counts its days.

`Date.ofDay` and `Date.toDay` undo each other, over all years: every day has
a date, one that there is, and every date that there is has a day
(`toDay_ofDay`, `isValid_ofDay`, `ofDay_toDay`). Both count from the first of
March, and so do the proofs: a day is a March year and the number of days
since it began (`IsMarchDay`). Within a year, the months are found by one
division; the year is found by one too, which is right because a year is a
place in cycles of four hundred, a hundred, four and one years
(`exists_cycles`).
-/
import SecurityConsole.Time.Date

namespace SecurityConsole.Time.Date

-- =========================================================== March years

/-- The days before the first of March of a year, from that of year
zero. -/
def yearDays (year : Int) : Int :=
  365 * year + year / 4 - year / 100 + year / 400

/-- Whether a March year has a day of a number. Only one that ends with a
leap day has 366. -/
structure IsMarchDay (year k : Int) : Prop where
  nonneg : 0 ≤ k
  le : k ≤ 365
  leap : k = 365 → isLeap (year + 1) = true

/-- The month that is so many behind March. -/
def monthAt (months : Int) : Int :=
  if months < 10 then months + 3 else months - 9

/-- The date of a day of a March year. -/
def ofMarch (year k : Int) : Date :=
  let months := (5 * k + 2) / 153
  { year := if monthAt months ≤ 2 then year + 1 else year
    month := (monthAt months).toNat
    day := (k - marchDays months + 1).toNat }

theorem isLeap_iff {year : Int} : isLeap year = true ↔
    year % 4 = 0 ∧ (year % 100 ≠ 0 ∨ year % 400 = 0) := by
  simp [isLeap]

-- ================================================================ cycles

/-- The place of a year in an era: the century, the four years in it, and
the year of the four. -/
structure IsPlace (century four year : Int) : Prop where
  century : 0 ≤ century ∧ century ≤ 3
  four : 0 ≤ four ∧ four ≤ 24
  year : 0 ≤ year ∧ year ≤ 3

/-- Every year has a place in its era. -/
theorem exists_place (year : Int) : ∃ era c q t, IsPlace c q t
    ∧ year = 400 * era + (100 * c + 4 * q + t) :=
  ⟨year / 400, year % 400 / 100, year % 100 / 4, year % 4,
    ⟨by omega, by omega, by omega⟩, by omega⟩

section
variable {c q t : Int}

/-- The days of the years before a place in the cycles, cycle by
cycle. -/
theorem yearDays_place (era : Int) (h : IsPlace c q t) :
    yearDays (400 * era + (100 * c + 4 * q + t))
      = 146097 * era + (36524 * c + 1461 * q + 365 * t) := by
  obtain ⟨hc, hq, ht⟩ := h
  have hfours : (400 * era + (100 * c + 4 * q + t)) / 4
      = 100 * era + 25 * c + q := by omega
  have hcenturies : (400 * era + (100 * c + 4 * q + t)) / 100
      = 4 * era + c := by omega
  have heras : (400 * era + (100 * c + 4 * q + t)) / 400 = era := by omega
  unfold yearDays
  rw [hfours, hcenturies, heras]
  omega

/-- The years that end with a leap day are the last of their four; the last
of a century is none, but for the last of an era. -/
theorem isLeap_place (era : Int) (h : IsPlace c q t) :
    isLeap (400 * era + (100 * c + 4 * q + t) + 1) = true
      ↔ t = 3 ∧ (q = 24 → c = 3) := by
  obtain ⟨hc, hq, ht⟩ := h
  rw [isLeap_iff]
  omega

/-- Every day of an era is a day of a year in it. -/
theorem exists_cycles {n : Int} (h : 0 ≤ n) (h' : n < 146097) :
    ∃ c q t k, IsPlace c q t ∧ 0 ≤ k ∧ k ≤ 365
      ∧ (k = 365 → t = 3 ∧ (q = 24 → c = 3))
      ∧ n = 36524 * c + 1461 * q + 365 * t + k := by
  obtain ⟨c, hc⟩ : ∃ c, c = min (n / 36524) 3 := ⟨_, rfl⟩
  obtain ⟨q, hq⟩ : ∃ q, q = (n - 36524 * c) / 1461 := ⟨_, rfl⟩
  obtain ⟨t, ht⟩ : ∃ t, t = min ((n - 36524 * c - 1461 * q) / 365) 3 :=
    ⟨_, rfl⟩
  exact ⟨c, q, t, n - 36524 * c - 1461 * q - 365 * t,
    ⟨by omega, by omega, by omega⟩, by omega, by omega, by omega, by omega⟩

/-- The year of a day in an era is found by a division, once the leap days
before it are taken off. -/
theorem yearInEra_eq {k : Int} (h : IsPlace c q t) (hk : 0 ≤ k)
    (hk' : k ≤ 365) (hleap : k = 365 → t = 3 ∧ (q = 24 → c = 3)) :
    let n := 36524 * c + 1461 * q + 365 * t + k
    (n - n / 1460 + n / 36524 - n / 146096) / 365
      = 100 * c + 4 * q + t := by
  intro n
  obtain ⟨hc, hq, ht⟩ := h
  -- a quotient is one more only on the leap day that ends the cycle
  have hfours : n / 1460 = 25 * c + q
      + if 1460 ≤ 24 * c + q + 365 * t + k then 1 else 0 := by
    split <;> omega
  have hcenturies : n / 36524 = c + if n = 146096 then 1 else 0 := by
    split <;> omega
  have hera : n / 146096 = if n = 146096 then 1 else 0 := by
    split <;> omega
  rw [hfours, hcenturies, hera]
  split <;> omega

/-- What is left is the day of the year. -/
theorem dayInYear_eq (h : IsPlace c q t) (k : Int) :
    36524 * c + 1461 * q + 365 * t + k
        - (365 * (100 * c + 4 * q + t) + (100 * c + 4 * q + t) / 4
          - (100 * c + 4 * q + t) / 100) = k := by
  obtain ⟨hc, hq, ht⟩ := h
  omega

end

-- ============================================================== the days

/-- Every day is a day of a March year. -/
theorem exists_march (n : Int) : ∃ year k, IsMarchDay year k
    ∧ n = yearDays year + k - 719468 := by
  obtain ⟨c, q, t, k, hplace, hk, hk', hleap, hn⟩ :=
    exists_cycles (n := (n + 719468) % 146097) (by omega) (by omega)
  refine ⟨400 * ((n + 719468) / 146097) + (100 * c + 4 * q + t), k,
    ⟨hk, hk', fun h => (isLeap_place _ hplace).2 (hleap h)⟩, ?_⟩
  rw [yearDays_place _ hplace]
  omega

section
variable {year k : Int}

/-- The date of a day of a March year is found. -/
theorem ofDay_march (h : IsMarchDay year k) :
    ofDay (yearDays year + k - 719468) = ofMarch year k := by
  obtain ⟨hk, hk', hleap⟩ := h
  obtain ⟨era, c, q, t, hplace, rfl⟩ := exists_place year
  rw [isLeap_place era hplace] at hleap
  have hdays := yearDays_place era hplace
  let n := 36524 * c + 1461 * q + 365 * t + k
  have hn : yearDays (400 * era + (100 * c + 4 * q + t)) + k - 719468
      + 719468 = 146097 * era + n := by
    rw [hdays]
    omega
  have hbounds : 0 ≤ n ∧ n < 146097 := by
    obtain ⟨hc, hq, ht⟩ := hplace
    omega
  have hdiv : (146097 * era + n) / 146097 = era := by omega
  have hmod : (146097 * era + n) % 146097 = n := by omega
  have hyear : (n - n / 1460 + n / 36524 - n / 146096) / 365
      = 100 * c + 4 * q + t := yearInEra_eq hplace hk hk' hleap
  have hday : n - (365 * (100 * c + 4 * q + t)
      + (100 * c + 4 * q + t) / 4 - (100 * c + 4 * q + t) / 100) = k :=
    dayInYear_eq hplace k
  unfold ofDay ofMarch monthAt
  simp only [hn, hdiv, hmod, hyear, hday]

/-- The months of a year are found by a division. -/
theorem months_spec (h : IsMarchDay year k) :
    let months := (5 * k + 2) / 153
    (0 ≤ months ∧ months ≤ 11) ∧ marchDays months ≤ k
      ∧ k < marchDays (months + 1) := by
  obtain ⟨hk, hk', -⟩ := h
  unfold marchDays
  omega

theorem months_eq {months : Int} (hstart : marchDays months ≤ k)
    (hend : k < marchDays (months + 1)) : (5 * k + 2) / 153 = months := by
  unfold marchDays at hstart hend
  omega

/-- The day of the date is the one it is the date of. -/
theorem toDay_ofMarch (h : IsMarchDay year k) :
    (ofMarch year k).toDay = yearDays year + k - 719468 := by
  obtain ⟨hmonths, hstart, -⟩ := months_spec h
  unfold toDay ofMarch yearDays monthAt
  generalize (5 * k + 2) / 153 = months at *
  by_cases hlate : months < 10
  · have hmonth : ¬ months + 3 ≤ 2 := by omega
    have hback : ((months + 3).toNat + 9 : Int) % 12 = months := by omega
    have hnat : ¬ (months + 3).toNat ≤ 2 := by omega
    simp only [hlate, hmonth, hnat, hback, if_true, if_false]
    omega
  · have hmonth : months - 9 ≤ 2 := by omega
    have hback : ((months - 9).toNat + 9 : Int) % 12 = months := by omega
    have hnat : (months - 9).toNat ≤ 2 := by omega
    simp only [hlate, hmonth, hnat, hback, if_true, if_false]
    rw [Int.add_sub_cancel]
    omega

/-- A month ends where the next one begins, but for the last of a March
year. -/
theorem monthLength_monthAt {months : Int} (h : 0 ≤ months)
    (h' : months ≤ 11) (year : Int) :
    (monthLength year (monthAt months).toNat : Int)
      = if months = 11 then if isLeap year then 29 else 28
        else marchDays (months + 1) - marchDays months := by
  by_cases hlast : months = 11
  · subst hlast
    show ((if isLeap year then 29 else 28 : Nat) : Int) = _
    cases isLeap year <;> rfl
  · rw [if_neg hlast]
    obtain rfl | rfl | rfl | rfl | rfl | rfl | rfl | rfl | rfl | rfl | rfl :
        months = 0 ∨ months = 1 ∨ months = 2 ∨ months = 3 ∨ months = 4
          ∨ months = 5 ∨ months = 6 ∨ months = 7 ∨ months = 8 ∨ months = 9
          ∨ months = 10 := by omega
    all_goals rfl

/-- There is the date of a day of a March year. -/
theorem isValid_ofMarch (h : IsMarchDay year k) :
    (ofMarch year k).isValid = true := by
  obtain ⟨⟨hlow, hhigh⟩, hstart, hend⟩ := months_spec h
  have hlength := monthLength_monthAt hlow hhigh
    (if monthAt ((5 * k + 2) / 153) ≤ 2 then year + 1 else year)
  obtain ⟨-, hk', hleap⟩ := h
  unfold isValid ofMarch
  simp only [Bool.and_eq_true, decide_eq_true_eq]
  generalize (5 * k + 2) / 153 = months at *
  by_cases hlast : months = 11
  · have hbehind : monthAt months ≤ 2 := by
      subst hlast
      decide
    have hbegin : marchDays months = 337 := by
      subst hlast
      rfl
    rw [if_pos hlast] at hlength
    rw [if_pos hbehind] at hlength ⊢
    cases hl : isLeap (year + 1) with
    | true =>
        rw [hl, if_pos rfl] at hlength
        omega
    | false =>
        rw [hl, if_neg Bool.false_ne_true] at hlength
        have hshort : k ≠ 365 := fun hk => Bool.false_ne_true
          (hl.symm.trans (hleap hk))
        omega
  · rw [if_neg hlast] at hlength
    omega

end

/-- The months are twelve, and none has more than thirty-one days. -/
theorem bounds_of_isValid {d : Date} (h : d.isValid = true) :
    (1 ≤ d.month ∧ d.month ≤ 12)
      ∧ 1 ≤ d.day ∧ d.day ≤ monthLength d.year d.month ∧ d.day ≤ 31 := by
  obtain ⟨hday, hday'⟩ : 1 ≤ d.day ∧ d.day ≤ monthLength d.year d.month := by
    simpa [isValid] using h
  have hlength : monthLength d.year d.month ≤ 31
      ∧ (monthLength d.year d.month ≠ 0 → 1 ≤ d.month ∧ d.month ≤ 12) := by
    unfold monthLength
    split
    · split <;> omega
    all_goals omega
  omega

/-- Every date that there is is one of a March year. -/
theorem exists_march_of_isValid {d : Date} (h : d.isValid = true) :
    ∃ year k, IsMarchDay year k ∧ d = ofMarch year k := by
  obtain ⟨year, month, day⟩ := d
  obtain ⟨hmonth, hday, hday', -⟩ := bounds_of_isValid h
  dsimp only at hmonth hday hday'
  obtain ⟨months, hmonths⟩ :
      ∃ months, months = ((month : Int) + 9) % 12 := ⟨_, rfl⟩
  have hlow : 0 ≤ months := by omega
  have hhigh : months ≤ 11 := by omega
  have hat : monthAt months = month := by
    unfold monthAt
    split <;> omega
  have hlength := monthLength_monthAt hlow hhigh year
  rw [hat, Int.toNat_natCast] at hlength
  have hback : (if (month : Int) ≤ 2 then
      (if month ≤ 2 then year - 1 else year) + 1
      else if month ≤ 2 then year - 1 else year) = year := by
    split <;> split <;> omega
  have hspan : marchDays months + day - 1 < marchDays (months + 1)
      ∧ marchDays months + day - 1 ≤ 365
      ∧ (marchDays months + day - 1 = 365 →
        month ≤ 2 ∧ isLeap year = true) := by
    -- February is the last month, and the only one whose length the
    -- year tells
    by_cases hlast : months = 11
    · have hbegin : marchDays months = 337 ∧ marchDays (months + 1) = 367 := by
        subst hlast
        exact ⟨rfl, rfl⟩
      rw [if_pos hlast] at hlength
      split at hlength
      · exact ⟨by omega, by omega, fun _ => ⟨by omega, ‹_›⟩⟩
      · omega
    · have hend : marchDays (months + 1) ≤ 337 := by
        unfold marchDays
        omega
      rw [if_neg hlast] at hlength
      omega
  obtain ⟨hend, hle, hleap⟩ := hspan
  have hstart : 0 ≤ marchDays months := by
    unfold marchDays
    omega
  refine ⟨if month ≤ 2 then year - 1 else year, marchDays months + day - 1,
    ⟨by omega, hle, fun hk => ?_⟩, ?_⟩
  · obtain ⟨hearly, hleap⟩ := hleap hk
    rw [if_pos hearly, Int.sub_add_cancel]
    exact hleap
  · have hfound := months_eq (by omega) hend
    have hday : (marchDays months + day - 1 - marchDays months + 1).toNat
        = day := by omega
    unfold ofMarch
    simp only [hfound, hat, hback, hday, Int.toNat_natCast]

-- ============================================================== the dates

/-- The day of the date of a day is the day. -/
theorem toDay_ofDay (n : Int) : (ofDay n).toDay = n := by
  obtain ⟨year, k, hk, rfl⟩ := exists_march n
  rw [ofDay_march hk, toDay_ofMarch hk]

/-- There is the date of every day. -/
theorem isValid_ofDay (n : Int) : (ofDay n).isValid = true := by
  obtain ⟨year, k, hk, rfl⟩ := exists_march n
  rw [ofDay_march hk]
  exact isValid_ofMarch hk

/-- The date of the day of a date is the date, if there is such. -/
theorem ofDay_toDay {d : Date} (h : d.isValid = true) :
    ofDay d.toDay = d := by
  obtain ⟨year, k, hk, rfl⟩ := exists_march_of_isValid h
  rw [toDay_ofMarch hk, ofDay_march hk]

/-- The days of the years with four digits are days that there is a text
for, and so are the two days before and after each. -/
theorem toDay_within {d : Date} (h : d.isValid = true) (hyear : 0 ≤ d.year)
    (hyear' : d.year ≤ 9999) :
    firstDay + 2 ≤ d.toDay ∧ d.toDay + 2 ≤ lastDay := by
  obtain ⟨hmonth, hday⟩ := bounds_of_isValid h
  have hfirst : firstDay = -96465292 := by decide +kernel
  have hlast : lastDay = 95026236 := by decide +kernel
  rw [hfirst, hlast]
  unfold toDay marchDays
  dsimp only
  split <;> omega

end SecurityConsole.Time.Date
