/-
Numbers of double precision, kept as their sixty-four bits. Two doubles
are equal here when their bits are, so that a value read from a message
and written back is the same value and no law of arithmetic is needed to
say so. Arithmetic is done only where a decimal numeral is read
(`Json/Numeral`) and an integer is widened.
-/

namespace SecurityConsole.Number

/-- A number of double precision, by its bits: one for the sign, eleven
for the exponent, fifty-two for the fraction. -/
structure Double where
  bits : UInt64
  deriving DecidableEq, Repr, Inhabited

namespace Double

/-- The bits of a machine number. -/
def ofFloat (x : Float) : Double := ⟨x.toBits⟩

/-- The double nearest to an integer. -/
def ofInt (n : Int) : Double := ofFloat (Float.ofInt n)

/-- Positive zero. -/
def zero : Double := ⟨0⟩

-- ============================================================ the parts

/-- Whether the sign bit is set. -/
def isNegative (x : Double) : Bool := x.bits.toNat / Nat.pow 2 63 = 1

/-- The eleven bits of the exponent. -/
def exponentBits (x : Double) : Nat :=
  x.bits.toNat / Nat.pow 2 52 % 2048

/-- The fifty-two bits of the fraction. -/
def fractionBits (x : Double) : Nat := x.bits.toNat % Nat.pow 2 52

/-- Whether the bits denote a number, not an infinity or a NaN. -/
def isFinite (x : Double) : Bool := x.exponentBits ≠ 2047

/-- The whole number `m` of the magnitude `m * 2 ^ q`. -/
def significand (x : Double) : Nat :=
  if x.exponentBits = 0 then x.fractionBits
  else x.fractionBits + Nat.pow 2 52

/-- The power `q` of the magnitude `m * 2 ^ q`. -/
def scale (x : Double) : Int :=
  if x.exponentBits = 0 then -1074 else (x.exponentBits : Int) - 1075

end Double
end SecurityConsole.Number
