/-
Dates of the Gregorian calendar, extended to all years, and the days that
they number. Day zero is the first of January 1970.
-/

namespace SecurityConsole.Time

/-- A year, a month and a day. -/
structure Date where
  year : Int
  month : Nat
  day : Nat
  deriving DecidableEq, Repr, Inhabited

/-- Whether a year has a leap day. -/
def isLeap (year : Int) : Bool :=
  year % 4 = 0 && (year % 100 ≠ 0 || year % 400 = 0)

/-- The number of days of a month; a month that there is not has none. -/
def monthLength (year : Int) (month : Nat) : Nat :=
  match month with
  | 2 => if isLeap year then 29 else 28
  | 4 | 6 | 9 | 11 => 30
  | 1 | 3 | 5 | 7 | 8 | 10 | 12 => 31
  | _ => 0

namespace Date

/-- Whether there is such a day. -/
def isValid (d : Date) : Bool :=
  1 ≤ d.day && d.day ≤ monthLength d.year d.month

/-- The days between the first of March and the first of a month behind
it, counting months from March. -/
def marchDays (months : Int) : Int := (153 * months + 2) / 5

/-- The number of a date's day. Years are counted from March, so that the
leap day comes last. -/
def toDay (d : Date) : Int :=
  let year := if d.month ≤ 2 then d.year - 1 else d.year
  let months := ((d.month : Int) + 9) % 12
  365 * year + year / 4 - year / 100 + year / 400 + marchDays months +
    d.day - 719469

/-- The date of a day. -/
def ofDay (n : Int) : Date :=
  let n := n + 719468
  let era := n / 146097
  let inEra := n % 146097
  let yearInEra :=
    (inEra - inEra / 1460 + inEra / 36524 - inEra / 146096) / 365
  let inYear :=
    inEra - (365 * yearInEra + yearInEra / 4 - yearInEra / 100)
  let months := (5 * inYear + 2) / 153
  let month := if months < 10 then months + 3 else months - 9
  let year := 400 * era + yearInEra
  { year := if month ≤ 2 then year + 1 else year
    month := month.toNat
    day := (inYear - marchDays months + 1).toNat }

end Date

/-- The day of the week of a day; Sunday is zero. -/
def weekday (day : Int) : Int := (day + 4) % 7

-- ================================================================= limits

/-- The first day that there is a text for. -/
def firstDay : Int := Date.toDay ⟨-262143, 1, 1⟩

/-- The last day that there is a text for. -/
def lastDay : Int := Date.toDay ⟨262142, 12, 31⟩

/-- Whether a day lies between the first and the last. -/
def isDay (day : Int) : Bool := firstDay ≤ day && day ≤ lastDay

end SecurityConsole.Time
