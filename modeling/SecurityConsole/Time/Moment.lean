/-
Moments: a day, a second of it, and a fraction. A moment has no zone of
its own; it is on a clock that the context tells.

A fraction of a second or more stands for the leap second behind the
second it belongs to.
-/
import SecurityConsole.Time.Date

namespace SecurityConsole.Time

/-- A point on a clock. -/
structure Moment where
  day : Int
  /-- The second of the day. -/
  second : Int
  /-- The nanoseconds behind it; in a leap second, one second more. -/
  nano : Nat
  deriving DecidableEq, Repr, Inhabited

namespace Moment

/-- The seconds of a day. -/
def daySeconds : Int := 86400

/-- The nanoseconds of a second. -/
def nanos : Int := 1000000000

/-- The seconds since day zero. -/
def seconds (m : Moment) : Int := m.day * daySeconds + m.second

/-- The moment some seconds later. -/
def shift (m : Moment) (s : Int) : Moment :=
  { day := (m.seconds + s) / daySeconds
    second := (m.seconds + s) % daySeconds
    nano := m.nano }

/-- The moment of a number of milliseconds since day zero. -/
def ofMillis (ms : Int) : Moment :=
  { day := ms / 1000 / daySeconds
    second := ms / 1000 % daySeconds
    nano := (ms % 1000 * 1000000).toNat }

/-- Whether a moment lies in a leap second. -/
def isLeapSecond (m : Moment) : Bool := nanos ≤ m.nano

/-- The nanoseconds from one moment to another. A leap second counts for
later times of the day. -/
def elapsed (start stop : Moment) : Int :=
  let leap :=
    if start.isLeapSecond ∧ start.second < stop.second then 1
    else if stop.isLeapSecond ∧ stop.second < start.second then -1
    else 0
  (stop.seconds - start.seconds + leap) * nanos +
    ((stop.nano : Int) - start.nano)

-- ================================================================== laws

/-- Seconds shifted are seconds added. -/
theorem seconds_shift (m : Moment) (s : Int) :
    (m.shift s).seconds = m.seconds + s := by
  simp only [shift, seconds, daySeconds]
  omega

/-- Two shifts are one. -/
theorem shift_shift (m : Moment) (s t : Int) :
    (m.shift s).shift t = m.shift (s + t) := by
  simp only [shift, ← Int.add_assoc]
  have := seconds_shift m s
  simp only [shift] at this
  rw [this]

/-- A clock that goes forth and back shows the same. -/
theorem shift_neg_cancel {m : Moment} (h : 0 ≤ m.second)
    (h' : m.second < daySeconds) (s : Int) :
    (m.shift s).shift (-s) = m := by
  rw [shift_shift]
  obtain ⟨day, second, nano⟩ := m
  simp only [shift, seconds, daySeconds] at *
  congr 1 <;> omega

-- ================================================================== texts

/-- A number with at least so many digits. -/
def padded (width n : Nat) : String :=
  let ds := toString n
  String.ofList (List.replicate (width - ds.length) '0') ++ ds

/-- A year: four digits, and a sign for those before year zero and behind
year 9999. -/
def yearText (y : Int) : String :=
  if y < 0 then "-" ++ padded 4 y.natAbs
  else if 9999 < y then "+" ++ padded 4 y.natAbs
  else padded 4 y.natAbs

/-- The date of a moment. -/
def dateText (m : Moment) : String :=
  let d := Date.ofDay m.day
  yearText d.year ++ "-" ++ padded 2 d.month ++ "-" ++ padded 2 d.day

/-- The date of a moment, and the time to the minute. -/
def dateTimeText (m : Moment) : String :=
  m.dateText ++ " " ++ padded 2 (m.second / 3600).toNat ++ ":" ++
    padded 2 (m.second / 60 % 60).toNat

end Moment
end SecurityConsole.Time
