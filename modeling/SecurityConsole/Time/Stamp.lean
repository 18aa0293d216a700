/-
Reading time stamps. A stamp with a zone follows the standard for dates
on the internet; one without has a date, a blank or a `T`, and a time to
the minute or finer, with numbers of one digit or more.
-/
import SecurityConsole.Time.Moment
import SecurityConsole.Text.Blank

namespace SecurityConsole.Time

open Text (trimBlankStart)

namespace Stamp

-- ================================================================ reading

/-- Read the digits of a number, at least `lo` and at most `hi`. -/
def number? (lo hi : Nat) (s : List Char) : Option (Nat × List Char) :=
  let ds := (s.take hi).takeWhile Char.isDigit
  if ds.length < lo then none
  else some (ds.foldl (fun n c => 10 * n + (c.toNat - '0'.toNat)) 0,
    s.drop ds.length)

/-- Read one character. -/
def char? (c : Char) : List Char → Option (List Char)
  | [] => none
  | d :: rest => if d = c then some rest else none

/-- Read a fraction of a second as nanoseconds: a point and digits, of
which those behind the ninth do not count. Without a point there is no
fraction. -/
def fraction? : List Char → Option (Nat × List Char)
  | '.' :: rest => do
    let (n, behind) ← number? 1 9 rest
    let digits := rest.length - behind.length
    some (n * Nat.pow 10 (9 - digits), behind.dropWhile Char.isDigit)
  | s => some (0, s)

/-- The moment of a date and a time; `none` unless there are such. A
second number sixty is a leap second. -/
def moment? (date : Date) (hour minute second nano : Nat) : Option Moment :=
  if date.isValid ∧ isDay date.toDay ∧ hour < 24 ∧ minute < 60 ∧ second ≤ 60
  then
    some
      { day := date.toDay
        second := hour * 3600 + minute * 60 + min second 59
        nano := if second = 60 then nano + 1000000000 else nano }
  else none

-- ============================================================ with a zone

/-- Read how far a clock is ahead, in seconds: `Z`, or a sign, hours and
minutes. -/
def offset? : List Char → Option (Int × List Char)
  | [] => none
  | c :: rest =>
    if c = 'Z' ∨ c = 'z' then some (0, rest)
    else if c = '+' ∨ c = '-' ∨ c = '\u2212' then do
      let (hours, rest) ← number? 2 2 rest
      let rest ← char? ':' rest
      let (minutes, rest) ← number? 2 2 rest
      if hours < 24 ∧ minutes < 60 then
        let seconds : Int := hours * 3600 + minutes * 60
        some (if c = '+' then seconds else -seconds, rest)
      else none
    else none

/-- Read a stamp with a zone; gives the moment of universal time. -/
def zoned? (s : List Char) : Option Moment := do
  let (year, s) ← number? 4 4 s
  let s ← char? '-' s
  let (month, s) ← number? 2 2 s
  let s ← char? '-' s
  let (day, s) ← number? 2 2 s
  let s ← match s with
    | c :: rest => if c ∈ ['T', 't', ' '] then some rest else none
    | [] => none
  let (hour, s) ← number? 2 2 s
  let s ← char? ':' s
  let (minute, s) ← number? 2 2 s
  let s ← char? ':' s
  let (second, s) ← number? 2 2 s
  let (nano, s) ← fraction? s
  let (offset, s) ← offset? s
  let m ← moment? ⟨year, month, day⟩ hour minute second nano
  if s.isEmpty then some (m.shift (-offset)) else none

-- ========================================================= without a zone

/-- Read a number of a stamp without a zone: blanks before it are
skipped. -/
def loose? (hi : Nat) (s : List Char) : Option (Nat × List Char) :=
  number? 1 hi (trimBlankStart s)

/-- Read a year: behind a sign it may have any number of digits. -/
def year? (s : List Char) : Option (Int × List Char) :=
  match trimBlankStart s with
  | '-' :: rest => (number? 1 rest.length rest).map fun (n, s) => (-n, s)
  | '+' :: rest => (number? 1 rest.length rest).map fun (n, s) => (n, s)
  | s => (number? 1 4 s).map fun (n, s) => (n, s)

/-- How a stamp without a zone is written. -/
structure Style where
  /-- What stands between date and time; `none` for blanks. -/
  divider : Option Char
  /-- Whether the time has seconds. -/
  hasSeconds : Bool
  deriving DecidableEq, Repr, Inhabited

/-- The styles that are read. -/
def styles : List Style := [⟨some 'T', true⟩, ⟨none, true⟩, ⟨none, false⟩]

/-- Read a stamp without a zone; gives the clock time. -/
def plain? (style : Style) (s : List Char) : Option Moment := do
  let (year, s) ← year? s
  let s ← char? '-' s
  let (month, s) ← loose? 2 s
  let s ← char? '-' s
  let (day, s) ← loose? 2 s
  let s ← match style.divider with
    | some c => char? c s
    | none => some (trimBlankStart s)
  let (hour, s) ← loose? 2 s
  let s ← char? ':' s
  let (minute, s) ← loose? 2 s
  let (second, nano, s) ←
    if style.hasSeconds then do
      let s ← char? ':' s
      let (second, s) ← loose? 2 s
      let (nano, s) ← fraction? s
      some (second, nano, s)
    else some (0, 0, s)
  let m ← moment? ⟨year, month, day⟩ hour minute second nano
  if s.isEmpty then some m else none

end Stamp
end SecurityConsole.Time
