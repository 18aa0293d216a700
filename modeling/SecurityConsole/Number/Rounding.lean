/-
Doubles from decimals, to whole numbers, and as plain digits.
-/
import SecurityConsole.Number.Shortest

namespace SecurityConsole.Number.Double

/-- The double nearest to `digits * 10 ^ exponent`. What is beyond all
doubles is infinite, what is below them is zero. -/
def ofDecimal (negative : Bool) (digits : Nat) (exponent : Int) : Double :=
  let place := (Decimal.width digits : Int) + exponent
  let x : Float :=
    if digits = 0 ∨ place < -400 then 0
    else if 400 < place then 1 / 0
    else if 0 ≤ exponent then Float.ofScientific digits false exponent.toNat
    else Float.ofScientific digits true exponent.natAbs
  ofFloat (if negative then -x else x)

/-- Whether the bits denote neither a number nor an infinity. -/
def isNaN (x : Double) : Bool := !x.isFinite && x.fractionBits ≠ 0

/-- The whole number nearest to the magnitude; a half goes up. -/
def nearestNat (x : Double) : Nat :=
  match x.scale with
  | .ofNat k => x.significand * Nat.pow 2 k
  | .negSucc k =>
    (2 * x.significand + Nat.pow 2 (k + 1)) / Nat.pow 2 (k + 2)

/-- The nearest whole number from zero to a bound, which stands for all
that are larger; what is no number counts as zero. -/
def clamped (bound : Nat) (x : Double) : Nat :=
  if x.isNaN ∨ x.isNegative then 0
  else if x.isFinite then min bound x.nearestNat
  else bound

/-- The number in digits alone, however many that takes, with a point
only before a fraction. -/
def plainText (x : Double) : String :=
  let sign := if x.isNegative then ['-'] else []
  if x.isFinite then
    let d := x.shortest
    let ds := Nat.toDigits 10 d.digits
    let place := (ds.length : Int) + d.exponent
    let body :=
      if 0 ≤ d.exponent then ds ++ List.replicate d.exponent.toNat '0'
      else if 0 < place then ds.take place.toNat ++ '.' :: ds.drop place.toNat
      else '0' :: '.' :: List.replicate (-place).toNat '0' ++ ds
    String.ofList (sign ++ body)
  else if x.isNaN then "NaN"
  else String.ofList (sign ++ ['i', 'n', 'f'])

end SecurityConsole.Number.Double
