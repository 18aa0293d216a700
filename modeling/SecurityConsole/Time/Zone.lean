/-
Zones: how far the clocks of a place are ahead of universal time.

A place with summer time turns its clocks twice a year. In between the
two turns one clock time may stand for no moment or for two. Of two, the
one that winter time gives is taken.
-/
import SecurityConsole.Time.Moment

namespace SecurityConsole.Time

/-- When clocks are turned: on a weekday of a week of a month, at a
second of that day by the clocks as they were. Weeks are counted from the
first of such weekdays. -/
structure Turn where
  month : Nat
  week : Nat
  /-- Sunday is zero. -/
  weekday : Int
  second : Int
  deriving DecidableEq, Repr, Inhabited

/-- The clock time of a turn in a year, in seconds since day zero. -/
def Turn.seconds (t : Turn) (year : Int) : Int :=
  let first := Date.toDay ⟨year, t.month, 1⟩
  let day := first + (t.weekday - Time.weekday first) % 7 + 7 * (t.week - 1)
  day * Moment.daySeconds + t.second

/-- A zone. -/
inductive Zone where
  /-- Clocks that are always so many seconds ahead. -/
  | fixed (offset : Int)
  /-- Clocks that are turned forward and, later in the year, back. -/
  | seasonal (winter summer : Int) (forward back : Turn)
  deriving DecidableEq, Repr, Inhabited

namespace Zone

/-- Universal time. -/
def universal : Zone := .fixed 0

/-- How far the clocks are ahead at a moment of universal time. -/
def offsetAt (z : Zone) (m : Moment) : Int :=
  match z with
  | .fixed offset => offset
  | .seasonal winter summer forward back =>
    let year := (Date.ofDay m.day).year
    if forward.seconds year - winter ≤ m.seconds ∧
        m.seconds < back.seconds year - summer then summer
    else winter

/-- How far the clocks are ahead that show a time; `none` if no clock
ever shows it. -/
def offsetOf? (z : Zone) (m : Moment) : Option Int :=
  match z with
  | .fixed offset => some offset
  | .seasonal winter summer forward back =>
    let year := (Date.ofDay m.day).year
    let turn := forward.seconds year
    if m.seconds ≤ turn then some winter
    else if m.seconds < turn + (summer - winter) then none
    else if m.seconds < back.seconds year - (summer - winter) then some summer
    else some winter

end Zone
end SecurityConsole.Time
