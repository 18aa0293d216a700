/-
Bytes shown as text although they may not be UTF-8: what begins no
character shows as a replacement character, one for each longest run of
bytes that begins like a character and is cut short.
-/
import SecurityConsole.Text.Utf8

namespace SecurityConsole.Text

/-- Whether a byte may go on a character. -/
def continues (b : UInt8) : Bool := 0x80 ≤ b && b ≤ 0xbf

/-- The number of bytes behind a first byte, and the range of the second;
`none` if no character begins so. -/
def leads? (b : UInt8) : Option (Nat × UInt8 × UInt8) :=
  if b < 0xc2 then none
  else if b < 0xe0 then some (1, 0x80, 0xbf)
  else if b = 0xe0 then some (2, 0xa0, 0xbf)
  else if b = 0xed then some (2, 0x80, 0x9f)
  else if b < 0xf0 then some (2, 0x80, 0xbf)
  else if b = 0xf0 then some (3, 0x90, 0xbf)
  else if b < 0xf4 then some (3, 0x80, 0xbf)
  else if b = 0xf4 then some (3, 0x80, 0x8f)
  else none

/-- The length of the run that begins like a character and is cut
short. -/
def brokenLength : Bytes → Nat
  | first :: second :: rest =>
    match leads? first with
    | some (n, lo, hi) =>
      if lo ≤ second ∧ second ≤ hi then
        2 + ((rest.take (n - 2)).takeWhile continues).length
      else 1
    | none => 1
  | _ => 1

/-- Show bytes, skipping the given number of them first. -/
def lossySkipping : Nat → Bytes → List Char
  | _, [] => []
  | n + 1, _ :: rest => lossySkipping n rest
  | 0, b :: rest =>
    match firstChar? (b :: rest) with
    | some c => c :: lossySkipping (c.utf8Size - 1) rest
    | none => '\ufffd' :: lossySkipping (brokenLength (b :: rest) - 1) rest

/-- Show bytes as text. -/
def lossy (bs : Bytes) : String := String.ofList (lossySkipping 0 bs)

end SecurityConsole.Text
