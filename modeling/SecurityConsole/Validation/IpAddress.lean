/-
Texts that are addresses of the internet protocol: four decimal numbers
between points, or up to eight groups of hexadecimal digits between
colons, where one run of groups that are zero may be left out and the
last two groups may be written as four decimal numbers.
-/
import SecurityConsole.Text.Cut
import SecurityConsole.Text.Hex

namespace SecurityConsole.Validation

open Text

/-- A number from 0 to 255 without leading zeros. -/
def isOctet (ds : List Char) : Bool :=
  !ds.isEmpty && ds.length ≤ 3 && ds.all Char.isDigit &&
    (ds.length = 1 || ds.head? ≠ some '0') &&
    ds.foldl (fun n c => 10 * n + (c.toNat - '0'.toNat)) 0 ≤ 255

/-- Four numbers between points. -/
def isIpv4 (s : List Char) : Bool :=
  let parts := cutAt (· = '.') s
  parts.length = 4 && parts.all isOctet

/-- One to four hexadecimal digits. -/
def isGroup (ds : List Char) : Bool :=
  !ds.isEmpty && ds.length ≤ 4 && ds.all fun c => (Hex.value? c).isSome

/-- The number of groups that a text between colons has; a last part
that is four numbers counts as two. `none` if a part is no group. -/
def groupCount? (s : List Char) : Option Nat :=
  if s.isEmpty then some 0
  else
    let parts := cutAt (· = ':') s
    match parts.getLast? with
    | none => none
    | some last =>
      if parts.dropLast.all isGroup then
        if isGroup last then some parts.length
        else if isIpv4 last then some (parts.length + 1)
        else none
      else none

/-- The texts before and behind the first pair of colons. -/
def cutDoubleColon : List Char → Option (List Char × List Char)
  | [] => none
  | ':' :: ':' :: rest => some ([], rest)
  | c :: rest => (cutDoubleColon rest).map fun (a, b) => (c :: a, b)

/-- Eight groups between colons, or fewer around a pair of colons. Four
decimal numbers stand only at the very end. -/
def isIpv6 (s : List Char) : Bool :=
  match cutDoubleColon s with
  | none => groupCount? s = some 8
  | some (before, behind) =>
    match groupCount? before, groupCount? behind with
    | some a, some b => a + b ≤ 7 && !before.contains '.'
    | _, _ => false

/-- An address of either version. -/
def isIpAddress (s : List Char) : Bool := isIpv4 s || isIpv6 s

end SecurityConsole.Validation
