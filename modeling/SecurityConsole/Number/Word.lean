/-
The bounds of integers of sixty-four bits.
-/

namespace SecurityConsole.Number

/-- One more than the largest unsigned integer of sixty-four bits. -/
def wordBound : Nat := 18446744073709551616

/-- One more than the largest signed integer of sixty-four bits, and the
magnitude of the least one. -/
def signedBound : Nat := 9223372036854775808

end SecurityConsole.Number
