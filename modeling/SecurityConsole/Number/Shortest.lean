/-
The shortest decimal text of a double: the fewest digits that read back
as the same number, and of those the digits nearest to it. The search is
exact arithmetic on whole numbers. A double of magnitude `m * 2 ^ q`
owns the interval between the midpoints to its two neighbours, ends
included when `m` is even, because a tie is read as the even neighbour.
For one digit, then two, and so on, the two points of the decimal grid
around the number are tried, and the first grid with a point in the
interval gives the digits.
-/
import SecurityConsole.Number.Double

namespace SecurityConsole.Number

/-- Decimal digits and the power of ten that the whole number they spell
is multiplied by. -/
structure Decimal where
  digits : Nat
  exponent : Int
  deriving DecidableEq, Repr, Inhabited

namespace Decimal

/-- The number of decimal digits of a whole number, at least one. -/
def width (n : Nat) : Nat := (Nat.toDigits 10 n).length

/-- Drop the zeros that the digits end in, raising the exponent. The
first argument bounds how many. -/
def dropZeros : Nat → Decimal → Decimal
  | 0, d => d
  | n + 1, d =>
    if d.digits ≠ 0 ∧ d.digits % 10 = 0 then
      dropZeros n ⟨d.digits / 10, d.exponent + 1⟩
    else d

end Decimal

namespace Double

/-- The magnitude and the two midpoints around it, as numerators over
one denominator: `(below, self, above, denominator)`. The lower
neighbour of a power of two is half as far away. -/
def interval (x : Double) : Nat × Nat × Nat × Nat :=
  let m := x.significand
  let narrow := x.fractionBits = 0 ∧ 1 < x.exponentBits
  let below := if narrow then 4 * m - 1 else 4 * m - 2
  match x.scale - 2 with
  | .ofNat k =>
    let step := Nat.pow 2 k
    (below * step, 4 * m * step, (4 * m + 2) * step, 1)
  | .negSucc k => (below, 4 * m, 4 * m + 2, Nat.pow 2 (k + 1))

/-- `n * 10 ^ e` against `num / den`: the two sides of the comparison
after clearing denominators. -/
def crossed (n : Nat) (e : Int) (num den : Nat) : Nat × Nat :=
  match e with
  | .ofNat k => (n * Nat.pow 10 k * den, num)
  | .negSucc k => (n * den, num * Nat.pow 10 (k + 1))

/-- Whether the decimal lies in the interval that reads back as `x`. -/
def owns (x : Double) (d : Decimal) : Bool :=
  let (below, _, above, den) := x.interval
  let (l₁, l₂) := crossed d.digits d.exponent below den
  let (u₁, u₂) := crossed d.digits d.exponent above den
  if x.significand % 2 = 0 then l₂ ≤ l₁ ∧ u₁ ≤ u₂ else l₂ < l₁ ∧ u₁ < u₂

/-- The point of the grid of step `10 ^ e` at or below the magnitude. -/
def floorAt (x : Double) (e : Int) : Nat :=
  let (_, self, _, den) := x.interval
  match e with
  | .ofNat k => self / (den * Nat.pow 10 k)
  | .negSucc k => self * Nat.pow 10 (k + 1) / den

/-- Whether the upper of the two grid points around the magnitude is the
nearer one; the even one of two equally near. -/
def upperNearer (x : Double) (lower : Nat) (e : Int) : Bool :=
  let (_, self, _, den) := x.interval
  let (a, b) := crossed (2 * lower + 1) e (2 * self) den
  a < b ∨ (a = b ∧ lower % 2 = 1)

/-- The decimal of the grid of step `10 ^ e` that reads back as `x`, the
nearer one where two do. -/
def onGrid? (x : Double) (e : Int) : Option Decimal :=
  let lower := x.floorAt e
  let down : Decimal := ⟨lower, e⟩
  let up : Decimal := ⟨lower + 1, e⟩
  match x.owns down, x.owns up with
  | true, true => some (if x.upperNearer lower e then up else down)
  | true, false => some down
  | false, true => some up
  | false, false => none

/-- The exponent of the magnitude's first decimal digit. -/
def leadingExponent (x : Double) : Int :=
  let (_, self, _, den) := x.interval
  if den ≤ self then (Decimal.width (self / den) : Int) - 1
  else -- the least `k` with `10 ^ k * self / den` at least one
    let k := Decimal.width (den / self)
    if den ≤ self * Nat.pow 10 (k - 1) then 1 - (k : Int) else - (k : Int)

/-- Try ever finer grids, from that of the leading digit on. Seventeen
digits always suffice. -/
def searchGrids (x : Double) (top : Int) : Nat → Nat → Option Decimal
  | _, 0 => none
  | k, n + 1 =>
    match x.onGrid? (top - k) with
    | some d => some d
    | none => searchGrids x top (k + 1) n

/-- The shortest decimal of a finite double's magnitude. -/
def shortest (x : Double) : Decimal :=
  if x.significand = 0 then ⟨0, 0⟩
  else
    match searchGrids x x.leadingExponent 0 18 with
    | some d => d.dropZeros 20
    | none => ⟨x.significand, 0⟩

-- =============================================================== the text

/-- Where the text of a number changes from positional digits to an
exponent: the largest and the smallest place of the leading digit that
is still written positionally. -/
structure Layout where
  largestPlace : Int
  smallestPlace : Int

/-- Numbers in messages are positional from `1e-5` up to `1e16`. -/
def messageLayout : Layout := ⟨16, -4⟩

/-- The text of a decimal with the given sign. A whole number ends in
`.0`, so that it stays apart from an integer. -/
def Layout.render (f : Layout) (negative : Bool) (d : Decimal) :
    String :=
  let sign := if negative then "-" else ""
  let ds := Nat.toDigits 10 d.digits
  let place := (ds.length : Int) + d.exponent
  let body : List Char :=
    if d.digits = 0 then ['0', '.', '0']
    else if 0 ≤ d.exponent ∧ place ≤ f.largestPlace then
      ds ++ List.replicate d.exponent.toNat '0' ++ ['.', '0']
    else if 0 < place ∧ place ≤ f.largestPlace then
      ds.take place.toNat ++ '.' :: ds.drop place.toNat
    else if f.smallestPlace ≤ place ∧ place ≤ 0 then
      '0' :: '.' :: List.replicate (-place).toNat '0' ++ ds
    else
      let power := 'e' :: (toString (place - 1)).toList
      match ds with
      | [c] => c :: power
      | c :: cs => c :: '.' :: cs ++ power
      | [] => power
  sign ++ String.ofList body

/-- The text of a double in a message; a value that is no number has no
text of its own and is written `null`. -/
def toText (x : Double) : String :=
  if x.isFinite then messageLayout.render x.isNegative x.shortest
  else "null"

end Double
end SecurityConsole.Number
