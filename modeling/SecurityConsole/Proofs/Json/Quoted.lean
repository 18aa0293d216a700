/-
Strings of JSON text are read back as they were written.

A string is written between quotes as one of its texts (`quoted_text`), so
it is one token (`Lexes.quoted`), and the pieces of that token spell the
string (`string?_written`). Control characters without a letter of their
own are the reason why pieces and characters are not the same: they come
back as code units.
-/
import SecurityConsole.Proofs.Json.Denotation
import SecurityConsole.Proofs.Json.Reading
import SecurityConsole.Json.Printer

namespace SecurityConsole.Json

-- ============================================================ characters

/-- Whether a character is written with its number. -/
def isNumbered (c : Char) : Bool :=
  c.toNat < 0x20 ∧ c ≠ '\x08' ∧ c ≠ '\x0c' ∧ c ≠ '\n' ∧ c ≠ '\r' ∧ c ≠ '\t'

/-- The piece that a character is read as, once it was written. -/
def writtenChar (c : Char) : Piece :=
  if isNumbered c then .unit c.toNat else .char c

/-- The pieces that a string is read as, once it was written. -/
def written (s : List Char) : Pieces := s.map writtenChar

/-- Four digits are a text of the number that they were written for. -/
theorem PieceText.digits {n : Nat} (h : n < 0x10000) :
    PieceText (.unit n) (['\\', 'u'] ++ Text.Hex.digits 4 n) := by
  have hdigit : ∀ m, IsHex (m % 16) (Text.Hex.lower (m % 16)) :=
    fun m => ⟨Nat.mod_lt _ (by decide), .inl rfl⟩
  have htext := PieceText.unit (hdigit (n / 16 / 16 / 16))
    (hdigit (n / 16 / 16)) (hdigit (n / 16)) (hdigit n)
  have hvalue : 16 * (16 * (16 * (n / 16 / 16 / 16 % 16)
      + n / 16 / 16 % 16) + n / 16 % 16) + n % 16 = n := by omega
  rw [hvalue] at htext
  exact htext

/-- A written character is a text of its piece. -/
theorem PieceText.escapeChar (c : Char) :
    PieceText (writtenChar c) (Json.escapeChar c) := by
  have hletter : ∀ {l d : Char}, (l, d) ∈ escapeLetters →
      isNumbered d = false → PieceText (writtenChar d) ['\\', l] := by
    intro l d hmem hd
    unfold writtenChar
    rw [if_neg (by rw [hd]; exact Bool.false_ne_true)]
    exact .letter hmem
  unfold Json.escapeChar
  split
  · next h => subst h; exact hletter (by decide) rfl
  split
  · next h => subst h; exact hletter (by decide) rfl
  split
  · next h => subst h; exact hletter (by decide) rfl
  split
  · next h => subst h; exact hletter (by decide) rfl
  split
  · next h => subst h; exact hletter (by decide) rfl
  split
  · next h => subst h; exact hletter (by decide) rfl
  split
  · next h => subst h; exact hletter (by decide) rfl
  next hquote hslash hb hf hn hr ht =>
    by_cases hlow : c.toNat < 0x20
    · have hw : writtenChar c = .unit c.toNat := by
        simp [writtenChar, isNumbered, hlow, hb, hf, hn, hr, ht]
      rw [if_pos hlow, hw]
      exact .digits (by omega)
    · have hw : writtenChar c = .char c := by
        simp [writtenChar, isNumbered, hlow]
      rw [if_neg hlow, hw]
      exact .plain hquote hslash (Nat.le_of_not_lt hlow)

/-- What stands between the quotes are the texts of the pieces. -/
theorem StringText.written (s : List Char) :
    StringText (written s) (s.flatMap escapeChar) := by
  induction s with
  | nil => exact .nil
  | cons c s ih =>
      rw [List.flatMap_cons]
      exact .cons (.escapeChar c) ih

/-- A string between quotes is a text of its pieces. -/
theorem quoted_text (s : List Char) :
    TokenText (.string (written s)) (quoteChars s) := by
  unfold quoteChars
  rw [List.cons_append]
  exact .string (.written s)

/-- A string between quotes is one token. -/
theorem Lexes.quoted (s : List Char) :
    Lexes (quoteChars s) [.string (written s)] :=
  (quoted_text s).lexes rfl

-- ============================================================== spelling

/-- What was written spells what it was written for. -/
theorem Spells.written (s : List Char) : Spells (written s) s := by
  induction s with
  | nil => exact .nil
  | cons c s ih =>
      show Spells (writtenChar c :: Json.written s) _
      unfold writtenChar
      cases h : isNumbered c with
      | false => exact .char ih
      | true =>
          have hlow : c.toNat < 0x20 := by
            simp only [isNumbered, decide_eq_true_eq] at h
            exact h.1
          exact .unit (by omega) ih

theorem string?_written (s : String) :
    string? (written s.toList) = some s :=
  string?_of_spells (.written s.toList)

end SecurityConsole.Json
