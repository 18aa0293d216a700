/-
Percent-encoding: a character that a part of an address may not hold is
written as its bytes in UTF-8, each as `%` and two upper-case
hexadecimal digits. Which characters stay as they are depends on the
part, and is given as a test.
-/
import SecurityConsole.Text.Utf8
import SecurityConsole.Text.Hex

namespace SecurityConsole.Url

open Text

/-- A byte as `%` and two digits. -/
def escapeByte (b : UInt8) : List Char :=
  ['%', Hex.upper (b.toNat / 16), Hex.upper (b.toNat % 16)]

/-- A character that passes the test as it is, any other escaped. -/
def escapeChar (keep : Char → Bool) (c : Char) : List Char :=
  if keep c then [c] else (String.utf8EncodeChar c).flatMap escapeByte

/-- A text whose characters that fail the test are escaped. -/
def escapeChars (keep : Char → Bool) (s : List Char) : List Char :=
  s.flatMap (escapeChar keep)

/-- The bytes that a text stands for once escapes are resolved. A `%`
without two digits behind it stands for itself. -/
def unescapeBytes : List Char → Bytes
  | '%' :: a :: b :: rest =>
    match Hex.value? a, Hex.value? b with
    | some x, some y => UInt8.ofNat (16 * x + y) :: unescapeBytes rest
    | _, _ => String.utf8EncodeChar '%' ++ unescapeBytes (a :: b :: rest)
  | c :: rest => String.utf8EncodeChar c ++ unescapeBytes rest
  | [] => []

end SecurityConsole.Url
