/-
Decimal numerals as JSON writes them, and the number each one denotes.

The grammar is that of RFC 8259: an optional minus sign, an integer part
without a leading zero, an optional fraction, an optional exponent.

A numeral with neither fraction nor exponent is an integer if it fits in
sixty-four bits with or without a sign; `-0` and all others are doubles.
A double is read from the first digits that fit in sixty-four bits and
the power of ten they stand at, by one multiplication or division in
double precision. That is not always the nearest double, and it is the
number that every message was sent with.
-/
import SecurityConsole.Json.Value
import SecurityConsole.Number.Word

namespace SecurityConsole.Json

open Number (Double)

/-- The parts of a numeral. The fraction is `none` when there is no
point, the exponent `none` when there is no `e`. -/
structure Numeral where
  negative : Bool
  whole : List Char
  fraction : Option (List Char)
  exponent : Option (Bool × List Char)
  deriving DecidableEq, Repr, Inhabited

namespace Numeral

-- ============================================================ the grammar

/-- The digits at the head of a text, and what is left. -/
def digits (s : List Char) : List Char × List Char :=
  (s.takeWhile Char.isDigit, s.dropWhile Char.isDigit)

/-- An integer part: digits without a leading zero, or a single zero. -/
def wholeOk : List Char → Bool
  | [] => false
  | '0' :: rest => rest.isEmpty
  | _ :: _ => true

/-- The fraction at the head of a text. -/
def readFraction? : List Char → Option (Option (List Char) × List Char)
  | '.' :: rest =>
    let (ds, rest) := digits rest
    if ds.isEmpty then none else some (some ds, rest)
  | rest => some (none, rest)

/-- The sign of an exponent: `true` when it is negative. -/
def readSign : List Char → Bool × List Char
  | '-' :: rest => (true, rest)
  | '+' :: rest => (false, rest)
  | rest => (false, rest)

/-- The exponent at the head of a text. -/
def readExponent? : List Char → Option (Option (Bool × List Char) × List Char)
  | c :: rest =>
    if c = 'e' ∨ c = 'E' then
      let (negative, rest) := readSign rest
      let (ds, rest) := digits rest
      if ds.isEmpty then none else some (some (negative, ds), rest)
    else some (none, c :: rest)
  | [] => some (none, [])

/-- The minus sign at the head of a text. -/
def readMinus : List Char → Bool × List Char
  | '-' :: rest => (true, rest)
  | rest => (false, rest)

/-- The numeral that a text is, if it is one from end to end. -/
def ofChars? (s : List Char) : Option Numeral :=
  let (negative, s) := readMinus s
  let (whole, s) := digits s
  if wholeOk whole then
    match readFraction? s with
    | some (fraction, s) =>
      match readExponent? s with
      | some (exponent, []) => some ⟨negative, whole, fraction, exponent⟩
      | _ => none
    | none => none
  else none

-- ============================================================= its number

/-- The value of a digit. -/
def digitValue (c : Char) : Nat := c.toNat - '0'.toNat

/-- The whole number that digits spell, behind those already read. -/
def natOf (acc : Nat) (ds : List Char) : Nat :=
  ds.foldl (fun n c => 10 * n + digitValue c) acc

/-- Digits as far as the number they spell fits in sixty-four bits: that
number, and the digits left over. -/
def leading (acc : Nat) : List Char → Nat × List Char
  | [] => (acc, [])
  | c :: rest =>
    let next := 10 * acc + digitValue c
    if next < Number.wordBound then leading next rest else (acc, c :: rest)

/-- The digits that a double is read from and the power of ten of the
last of them. Digits of the whole part that do not fit raise the power;
those of the fraction are dropped. -/
def significantDigits (n : Numeral) : Nat × Int :=
  let (whole, left) := leading 0 n.whole
  let fraction := n.fraction.getD []
  if left.isEmpty then
    let (all, dropped) := leading whole fraction
    (all, -((fraction.length : Int) - dropped.length))
  else
    -- a fraction's digits would not fit either, unless they are zeros
    -- behind a number that leaves room
    let (all, dropped) := leading whole fraction
    (all, (left.length : Int) - ((fraction.length : Int) - dropped.length))

/-- The largest exponent that is read digit by digit. -/
def exponentLimit : Nat := 2147483647

/-- The least and greatest power of ten that is kept apart. -/
def saturate (e : Int) : Int :=
  max (-2147483648) (min e 2147483647)

/-- A power of ten in double precision. -/
def powerOfTen (k : Nat) : Float := Float.ofScientific 1 false k

/-- A double times a power of ten, with one rounding for a power up to
308 and one more for each further 308 below; `none` beyond the largest
double. The first argument bounds the steps. -/
def scaled? : Nat → Float → Int → Option Float
  | 0, x, _ => some x
  | fuel + 1, x, e =>
    if e.natAbs ≤ 308 then
      if 0 ≤ e then
        let y := x * powerOfTen e.natAbs
        if y.isInf then none else some y
      else some (x / powerOfTen e.natAbs)
    else if x == 0 then some x
    else if 0 ≤ e then none
    else scaled? fuel (x / powerOfTen 308) (e + 308)

/-- The double of a sign, digits and a power of ten. -/
def double? (negative : Bool) (significand : Nat) (e : Int) :
    Option Double :=
  (scaled? 8 (Float.ofNat significand) e).map fun x =>
    Double.ofFloat (if negative then -x else x)

/-- The value of a numeral with a fraction or an exponent, or too long
for an integer; `none` when it is too large for a double. -/
def real? (n : Numeral) : Option Double :=
  let (significand, e) := n.significantDigits
  match n.exponent with
  | none => double? n.negative significand e
  | some (down, ds) =>
    let k := natOf 0 ds
    if k ≤ exponentLimit then
      double? n.negative significand (saturate (if down then e - k else e + k))
    else if significand ≠ 0 ∧ !down then none
    else double? n.negative 0 0

/-- The JSON value that a numeral denotes. -/
def value? (n : Numeral) : Option Json :=
  match n.fraction, n.exponent with
  | none, none =>
    let k := natOf 0 n.whole
    if n.negative then
      if 0 < k ∧ k ≤ Number.signedBound then some (.int (-k))
      else n.real?.map .real
    else
      if k < Number.wordBound then some (.int k) else n.real?.map .real
  | _, _ => n.real?.map .real

end Numeral
end SecurityConsole.Json
