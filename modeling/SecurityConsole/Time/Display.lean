/-
Time stamps of the server as the console shows them: in the zone of the
user, to the day or to the minute, or as an age. What is no stamp shows
as a dash.
-/
import SecurityConsole.Time.Zone
import SecurityConsole.Time.Stamp

namespace SecurityConsole.Time

/-- What shows in the place of a time that is not known. -/
def placeholder : String := "-"

/-- A stamp that was read: the moment of universal time, and how far the
clocks are ahead that show it. -/
structure Reading where
  moment : Moment
  offset : Int
  deriving DecidableEq, Repr, Inhabited

/-- What the clocks show. -/
def Reading.clock (r : Reading) : Moment := r.moment.shift r.offset

/-- The reading of a clock time in a zone. -/
def Zone.reading? (z : Zone) (clock : Moment) : Option Reading :=
  match z.offsetOf? clock with
  | some offset =>
    let moment := clock.shift (-offset)
    if isDay moment.day then some ⟨moment, offset⟩ else none
  | none => none

/-- Read a stamp. One without a zone is on the clocks of the given one. -/
def read? (z : Zone) (text : String) : Option Reading :=
  let s := Text.trimBlanks text.toList
  match Stamp.zoned? s with
  | some m => some ⟨m, z.offsetAt m⟩
  | none =>
    Stamp.styles.findSome? fun style =>
      (Stamp.plain? style s).bind z.reading?

/-- Show a stamp. -/
def display (z : Zone) (text : Option String) (shown : Reading → String) :
    String :=
  ((text.bind (read? z)).map shown).getD placeholder

/-- A stamp as a date and a time. -/
def showDateTime (z : Zone) (text : Option String) : String :=
  display z text fun r => r.clock.dateTimeText

/-- A stamp as a date. -/
def showDate (z : Zone) (text : Option String) : String :=
  display z text fun r => r.clock.dateText

-- =================================================================== ages

/-- How long ago something was. -/
inductive Age where
  | now
  | minutes (n : Int)
  | hours (n : Int)
  | days (n : Int)
  /-- A week and more. -/
  | old
  deriving DecidableEq, Repr, Inhabited

/-- The age of what was so many nanoseconds ago. -/
def Age.ofNanos (n : Int) : Age :=
  let seconds := n / Moment.nanos
  if seconds < 60 then .now
  else if seconds / 60 < 60 then .minutes (seconds / 60)
  else if seconds / 3600 < 24 then .hours (seconds / 3600)
  else if seconds / 86400 < 7 then .days (seconds / 86400)
  else .old

/-- The age of a reading, told at a moment of universal time. -/
def Reading.age (r : Reading) (now : Moment) : Age :=
  Age.ofNanos (r.moment.elapsed now)

/-- An age as a text; what is old shows as a date and a time. -/
def Reading.ageText (r : Reading) (now : Moment) : String :=
  match r.age now with
  | .now => "just now"
  | .minutes n => s!"{n} minutes ago"
  | .hours n => s!"{n} hours ago"
  | .days n => s!"{n} days ago"
  | .old => r.clock.dateTimeText

/-- A stamp as an age. -/
def showAge (z : Zone) (now : Moment) (text : Option String) : String :=
  display z text fun r => r.ageText now

end SecurityConsole.Time
