/-
Text as it arrives: a sequence of bytes read as UTF-8, one glyph at a
time. A body may hold bytes that begin no character, and the reader of
JSON accepts those in places that it skips, so decoding never fails: a
byte out of place becomes a `stray` glyph and reading goes on behind it.

The main statement is that decoding gives back what encoding wrote, on
glyphs (`decode_encodeChars`) and on strings (`decodeString?_encode`).
-/

namespace SecurityConsole.Text

/-- A sequence of bytes, as a body or a file holds them. -/
abbrev Bytes := List UInt8

/-- One unit of received text: a character, or a byte that is no part
of one. -/
inductive Glyph where
  | char (c : Char)
  | stray (b : UInt8)
  deriving DecidableEq, Repr, Inhabited

-- ============================================================ encoding

/-- The bytes of a text. -/
def encodeChars (s : List Char) : Bytes :=
  s.flatMap String.utf8EncodeChar

/-- The bytes of a string. -/
def encode (s : String) : Bytes :=
  encodeChars s.toList

-- ============================================================ decoding

/-- The character that the bytes begin with. No character takes more
than four bytes, so only those are looked at. -/
def firstChar? (bs : Bytes) : Option Char :=
  (bs.take 4).toByteArray.utf8DecodeChar? 0

/-- Read glyphs, skipping the given number of bytes first: those that
belong to the character just read. -/
def decodeSkipping : Nat → Bytes → List Glyph
  | _, [] => []
  | n + 1, _ :: rest => decodeSkipping n rest
  | 0, b :: rest =>
    match firstChar? (b :: rest) with
    | some c => .char c :: decodeSkipping (c.utf8Size - 1) rest
    | none => .stray b :: decodeSkipping 0 rest

/-- The glyphs of a sequence of bytes. -/
def decode (bs : Bytes) : List Glyph :=
  decodeSkipping 0 bs

/-- The text that glyphs spell, if none of them is stray. -/
def chars? : List Glyph → Option (List Char)
  | [] => some []
  | .char c :: rest => (chars? rest).map (c :: ·)
  | .stray _ :: _ => none

/-- The string that bytes spell, if they are UTF-8. -/
def decodeString? (bs : Bytes) : Option String :=
  (chars? (decode bs)).map String.ofList

-- =================================================== reading what is written

/-- The bytes of a character begin with that character, whatever
follows them. -/
theorem firstChar?_encode_append (c : Char) (rest : Bytes) :
    firstChar? (String.utf8EncodeChar c ++ rest) = some c := by
  have hlen : (String.utf8EncodeChar c).length ≤ 4 := by
    rw [String.length_utf8EncodeChar]; exact c.utf8Size_le_four
  rw [firstChar?, List.take_append, List.take_of_length_le hlen,
    List.toByteArray_append]
  exact ByteArray.utf8DecodeChar?_utf8EncodeChar_append

/-- Skipping exactly the bytes at hand leaves the rest. -/
theorem decodeSkipping_length_append (bs rest : Bytes) :
    decodeSkipping bs.length (bs ++ rest) = decodeSkipping 0 rest := by
  induction bs with
  | nil => rfl
  | cons b bs ih => simpa [decodeSkipping] using ih

/-- Decoding reads an encoded character as that character and goes on
behind it. -/
theorem decode_encodeChar_append (c : Char) (rest : Bytes) :
    decode (String.utf8EncodeChar c ++ rest) = .char c :: decode rest := by
  have hfirst := firstChar?_encode_append c rest
  have hlen := String.length_utf8EncodeChar c
  cases hbs : String.utf8EncodeChar c with
  | nil =>
    rw [hbs] at hlen
    exact absurd hlen (Nat.ne_of_lt c.utf8Size_pos)
  | cons b bs =>
    rw [hbs] at hfirst hlen
    rw [decode, List.cons_append, decodeSkipping, ← List.cons_append, hfirst]
    have hsize : c.utf8Size - 1 = bs.length := by
      simp only [List.length_cons] at hlen; omega
    simp only [hsize, decodeSkipping_length_append, decode]

/-- Decoding an encoded text gives its characters back. -/
theorem decode_encodeChars (s : List Char) :
    decode (encodeChars s) = s.map .char := by
  induction s with
  | nil => rfl
  | cons c s ih =>
    rw [encodeChars, List.flatMap_cons, decode_encodeChar_append]
    exact congrArg (Glyph.char c :: ·) ih

/-- Glyphs that are all characters spell those characters. -/
theorem chars?_map_char (s : List Char) : chars? (s.map .char) = some s := by
  induction s with
  | nil => rfl
  | cons c s ih => simp [chars?, ih]

/-- A string is read back from its bytes. -/
theorem decodeString?_encode (s : String) :
    decodeString? (encode s) = some s := by
  simp [decodeString?, encode, decode_encodeChars, chars?_map_char]

end SecurityConsole.Text
