/-
All texts of the grammar are read, each as the document that it is a text
of (`Document.ofBytes?_of_hasText`).

A text is lexed as some tokens if it gives just these, whatever stands
before and behind it (`Lexes`); texts that are put together are lexed one
by one (`Lexes.append`). So signs and strings are taken as they come
(`TokenText.lexes`). A word is not: the lexer knows its end only by what
stands behind it (`lex_word`). That cannot be another word, because the
words of a document never stand side by side (`apart_tokens`). The parser
gives a document to whatever is open around it (`Parser.run_tokens`).
-/
import SecurityConsole.Proofs.Json.Grammar

namespace SecurityConsole

open Text (Glyph)

-- ================================================================ digits

namespace Text.Hex

/-- Small hexadecimal digits are read back. -/
theorem value?_lower : ∀ n, n < 16 → value? (lower n) = some n := by
  decide

/-- So are capital ones. -/
theorem value?_upper : ∀ n, n < 16 → value? (upper n) = some n := by
  decide

end Text.Hex

namespace Json

/-- A hexadecimal digit has the value it stands for, in either case. -/
theorem IsHex.value? {n : Nat} {c : Char} (h : IsHex n c) :
    Text.Hex.value? c = some n := by
  obtain ⟨hn, rfl | rfl⟩ := h
  · exact Text.Hex.value?_lower n hn
  · exact Text.Hex.value?_upper n hn

-- ================================================================ lexing

/-- A text is lexed as some tokens, wherever it begins between tokens, and
ends between tokens. -/
def Lexes (s : List Char) (ts : List Token) : Prop :=
  ∀ (acc : List Token) (rest : List Glyph),
    Lexer.run ⟨.between, acc⟩ (s.map .char ++ rest)
      = Lexer.run ⟨.between, ts.reverse ++ acc⟩ rest

attribute [local simp] Lexer.run Lexer.step Lexer.stepBetween Lexer.finish
  Lexer.closeWord

namespace Lexes

theorem nil : Lexes [] [] := fun _ _ => rfl

/-- Texts put together are lexed one by one. This needs that the first
ends between tokens, which no word does. -/
theorem append {s t : List Char} {ts us : List Token} (h : Lexes s ts)
    (k : Lexes t us) : Lexes (s ++ t) (ts ++ us) := by
  intro acc rest
  rw [List.map_append, List.append_assoc, h, k, List.reverse_append,
    List.append_assoc]

/-- A blank between tokens gives none. -/
theorem blank {c : Char} (h : isBlank c = true) : Lexes [c] [] := by
  intro acc rest
  simp [h]

/-- A sign that is no quote and begins no word stands for itself. -/
theorem sign {c : Char} {t : Token} (hblank : isBlank c = false)
    (hquote : c ≠ '"') (hword : isWordChar c = false)
    (h : punctuation? c = some t) : Lexes [c] [t] := by
  intro acc rest
  simp [hblank, hquote, hword, h]

theorem openBrace : Lexes ['{'] [.openBrace] :=
  sign (by decide) (by decide) (by decide) rfl

theorem closeBrace : Lexes ['}'] [.closeBrace] :=
  sign (by decide) (by decide) (by decide) rfl

theorem colon : Lexes [':'] [.colon] :=
  sign (by decide) (by decide) (by decide) rfl

theorem openBracket : Lexes ['['] [.openBracket] :=
  sign (by decide) (by decide) (by decide) rfl

theorem closeBracket : Lexes [']'] [.closeBracket] :=
  sign (by decide) (by decide) (by decide) rfl

theorem comma : Lexes [','] [.comma] :=
  sign (by decide) (by decide) (by decide) rfl

/-- The tokens of a whole text. -/
theorem tokens? {s : List Char} {ts : List Token} (h : Lexes s ts) :
    Json.tokens? (s.map .char) = some ts := by
  have hrun := h [] []
  rw [List.append_nil, List.append_nil] at hrun
  unfold Json.tokens?
  rw [hrun]
  simp

end Lexes

-- =============================================================== strings

/-- The letters that stand for a character behind a backslash; the one
that begins a unit is not among them. -/
theorem escaped?_of_mem : ∀ e ∈ escapeLetters,
    e.1 ≠ 'u' ∧ escaped? e.1 = some e.2 := by decide

/-- Inside a string, the text of a piece is read as that piece. -/
theorem PieceText.run {p : Piece} {s : List Char} (h : PieceText p s)
    (seen : Pieces) (acc : List Token) (rest : List Glyph) :
    Lexer.run ⟨.quoted seen, acc⟩ (s.map .char ++ rest)
      = Lexer.run ⟨.quoted (p :: seen), acc⟩ rest := by
  cases h with
  | plain hquote hslash hlow =>
      have hnot : ¬ Char.toNat _ < 0x20 := Nat.not_lt.2 hlow
      simp [hquote, hslash, hnot]
  | letter hmem =>
      obtain ⟨hu, hletter⟩ := escaped?_of_mem _ hmem
      simp [hu, hletter]
  | unit ha hb hc hd =>
      simp [ha.value?, hb.value?, hc.value?, hd.value?]

/-- The pieces inside a string are read one after another. They are kept
last first until the quote that closes the string. -/
theorem StringText.run {ps : Pieces} {s : List Char} (h : StringText ps s)
    (acc : List Token) (rest : List Glyph) : ∀ seen : Pieces,
    Lexer.run ⟨.quoted seen, acc⟩ (s.map .char ++ rest)
      = Lexer.run ⟨.quoted (ps.reverse ++ seen), acc⟩ rest := by
  induction h with
  | nil => intro seen; rfl
  | cons hp _ ih =>
      intro seen
      rw [List.map_append, List.append_assoc, hp.run, ih,
        List.reverse_cons, List.append_assoc]
      rfl

-- ================================================================= words

/-- Whether a token is lexed as a word. -/
def Token.isWord : Token → Bool
  | .null | .bool _ | .number _ => true
  | _ => false

/-- What stands behind a word does not go on with it. -/
def EndsWord (s : List Char) : Prop := ∀ c ∈ s.head?, isWordChar c = false

section
variable {seen w s : List Char} {acc : List Token} {t : Token}

/-- A word ends where no word goes on. -/
theorem finish_word (ht : wordToken? seen.reverse = some t)
    (hs : EndsWord s) :
    (Lexer.run ⟨.word seen, acc⟩ (s.map .char)).bind Lexer.finish
      = (Lexer.run ⟨.between, t :: acc⟩ (s.map .char)).bind
          Lexer.finish := by
  cases s with
  | nil => simp [ht]
  | cons c s =>
      have hc : isWordChar c = false := hs c rfl
      simp [ht, hc]

/-- The characters of a word are taken together. -/
theorem run_word (rest : List Glyph) (w : List Char) : ∀ seen : List Char,
    (∀ c ∈ w, isWordChar c = true) →
      Lexer.run ⟨.word seen, acc⟩ (w.map .char ++ rest)
        = Lexer.run ⟨.word (w.reverse ++ seen), acc⟩ rest := by
  induction w with
  | nil => intro seen _; rfl
  | cons c w ih =>
      intro seen hw
      have hc := hw c List.mem_cons_self
      have hrest := ih (c :: seen) fun d hd =>
        hw d (List.mem_cons_of_mem c hd)
      rw [List.reverse_cons, List.append_assoc]
      simp only [List.map_cons, List.cons_append, Lexer.run, Lexer.step, hc,
        if_true, Option.bind_some]
      exact hrest

/-- What begins a word is neither a blank nor a quote, so the lexer gets
as far as to take it for one. -/
theorem not_blank_of_isWordChar {c : Char} (h : isWordChar c = true) :
    isBlank c = false ∧ c ≠ '"' := by
  refine ⟨?_, ?_⟩
  · cases hb : isBlank c with
    | false => rfl
    | true =>
        simp only [isBlank, decide_eq_true_eq] at hb
        rcases hb with rfl | rfl | rfl | rfl <;> cases h
  · rintro rfl
    cases h

/-- A whole word, and what stands behind it. -/
theorem lex_word {acc : List Token} (hne : w ≠ [])
    (hw : ∀ c ∈ w, isWordChar c = true)
    (ht : wordToken? w = some t) (hs : EndsWord s) :
    (Lexer.run ⟨.between, acc⟩ ((w ++ s).map .char)).bind Lexer.finish
      = (Lexer.run ⟨.between, t :: acc⟩ (s.map .char)).bind
          Lexer.finish := by
  cases w with
  | nil => exact absurd rfl hne
  | cons c w =>
      have hc := hw c List.mem_cons_self
      obtain ⟨hblank, hquote⟩ := not_blank_of_isWordChar hc
      have hopen : Lexer.run ⟨.between, acc⟩ (((c :: w) ++ s).map .char)
          = Lexer.run ⟨.word [c], acc⟩ (w.map .char ++ s.map .char) := by
        simp [hblank, hquote, hc]
      rw [hopen, run_word _ w [c] fun d hd =>
        hw d (List.mem_cons_of_mem c hd)]
      refine finish_word ?_ hs
      rw [List.reverse_append, List.reverse_reverse]
      exact ht

end

-- =============================================================== numbers

namespace Numeral

/-- What stands behind digits does not go on with them. -/
def EndsDigits (s : List Char) : Prop := ∀ c ∈ s.head?, c.isDigit = false

theorem endsDigits_nil : EndsDigits [] := nofun

/-- Digits end before a character that is none. -/
theorem endsDigits_cons {c : Char} {s : List Char}
    (h : c.isDigit = false) : EndsDigits (c :: s) := by
  intro d hd
  rwa [← Option.some.inj hd]

/-- Digits are taken up to where they end. -/
theorem digits_append {ds s : List Char} (h : ∀ c ∈ ds, c.isDigit = true)
    (hs : EndsDigits s) : digits (ds ++ s) = (ds, s) := by
  unfold digits
  rw [List.takeWhile_append_of_pos h, List.dropWhile_append_of_pos h]
  cases s with
  | nil => simp
  | cons c s =>
      have hc : c.isDigit = false := hs c rfl
      simp [hc]

/-- An exponent is read to the end of the numeral. It begins with its
letter, so that it ends the digits before it, and is not taken for a
fraction. -/
theorem readExponent?_of_text {e : Option (Bool × List Char)}
    {s : List Char} (h : ExponentText e s) :
    EndsDigits s ∧ s.head? ≠ some '.' ∧ readExponent? s = some (e, []) := by
  cases h with
  | none => exact ⟨nofun, nofun, rfl⟩
  | @some negative e sign ds he hsign hds =>
      obtain ⟨hne, hdigits⟩ := hds
      have hread : digits ds = (ds, []) := by
        have happend := digits_append hdigits endsDigits_nil
        rwa [List.append_nil] at happend
      -- the digits begin with no sign
      have hplain : readSign ds = (false, ds) := by
        cases ds with
        | nil => rfl
        | cons d ds =>
            have hd := hdigits d List.mem_cons_self
            unfold readSign
            split
            · next heq => cases heq; cases hd
            · next heq => cases heq; cases hd
            · rfl
      have hsigned : readSign (sign ++ ds) = (negative, ds) := by
        cases negative with
        | true =>
            obtain rfl : sign = ['-'] := List.mem_singleton.1 hsign
            rfl
        | false =>
            have hcases : sign = [] ∨ sign = ['+'] := by
              simpa [exponentSigns] using hsign
            rcases hcases with rfl | rfl
            · exact hplain
            · rfl
      have hempty : ds.isEmpty = false := by simpa using hne
      refine ⟨?_, ?_, ?_⟩
      · rintro c ⟨⟩
        rcases he with rfl | rfl <;> rfl
      · rintro ⟨⟩
        rcases he with he | he <;> cases he
      · simp [readExponent?, he, hsigned, hread, hempty]

/-- A fraction is read up to where its digits end; where there is none,
what follows must not begin with a point. -/
theorem readFraction?_of_text {f : Option (List Char)} {s t : List Char}
    (h : FractionText f s) (hdigits : EndsDigits t)
    (hpoint : t.head? ≠ some '.') :
    EndsDigits (s ++ t) ∧ readFraction? (s ++ t) = some (f, t) := by
  cases h with
  | none =>
      refine ⟨hdigits, ?_⟩
      cases t with
      | nil => rfl
      | cons c t =>
          unfold readFraction?
          split
          · next heq => cases heq; exact absurd rfl hpoint
          · rfl
  | @some ds hds =>
      obtain ⟨hne, hall⟩ := hds
      have hempty : ds.isEmpty = false := by simpa using hne
      refine ⟨?_, ?_⟩
      · rintro c ⟨⟩
        rfl
      · simp [readFraction?, digits_append hall hdigits, hempty]

/-- A numeral is read part by part, from the sign to the exponent. Each
part ends the one before it, which is why the facts about the exponent
and the fraction come first. -/
theorem ofChars?_of_text {n : Numeral} {s : List Char}
    (h : NumberText n s) : ofChars? s = some n := by
  cases h with
  | @mk negative whole fraction exponent s t hwhole hzero hs ht =>
      obtain ⟨hends, hpoint, hexponent⟩ := readExponent?_of_text ht
      obtain ⟨hends, hfraction⟩ := readFraction?_of_text hs hends hpoint
      obtain ⟨hne, hall⟩ := hwhole
      have hminus : readMinus (minus negative ++ (whole ++ (s ++ t)))
          = (negative, whole ++ (s ++ t)) := by
        cases negative with
        | true => rfl
        | false =>
            cases whole with
            | nil => exact absurd rfl hne
            | cons d ds =>
                have hd := hall d List.mem_cons_self
                show readMinus (d :: (ds ++ (s ++ t))) = _
                unfold readMinus
                split
                · next heq => cases heq; cases hd
                · rfl
      have hok : wholeOk whole = true := by
        unfold wholeOk
        split
        · exact absurd rfl hne
        · next rest =>
            have hrest := hzero rfl
            rw [(List.cons.inj hrest).2]
            rfl
        · rfl
      unfold ofChars?
      simp only [hminus, digits_append hall hends, hok, if_true, hfraction,
        hexponent]

end Numeral

/-- Digits may stand in words. -/
theorem isWordChar_of_isDigit {c : Char} (h : c.isDigit = true) :
    isWordChar c = true := by
  simp [isWordChar, Char.isAlphanum, h]

/-- A fraction has nothing in it that ends a word, its point included. -/
theorem FractionText.isWordChar {f : Option (List Char)} {s : List Char}
    (h : FractionText f s) : ∀ c ∈ s, Json.isWordChar c = true := by
  intro c hc
  cases h with
  | none => cases hc
  | some hds =>
      rcases List.mem_cons.1 hc with rfl | hc
      · rfl
      · exact isWordChar_of_isDigit (hds.2 c hc)

/-- The signs of exponents may stand in words. -/
theorem isWordChar_of_sign {negative : Bool} {sign : List Char}
    (h : sign ∈ exponentSigns negative) :
    sign.all isWordChar = true := by
  cases negative with
  | true =>
      obtain rfl : sign = ['-'] := List.mem_singleton.1 h
      rfl
  | false =>
      have hcases : sign = [] ∨ sign = ['+'] := by
        simpa [exponentSigns] using h
      rcases hcases with rfl | rfl <;> rfl

/-- An exponent has nothing in it that ends a word. -/
theorem ExponentText.isWordChar {e : Option (Bool × List Char)}
    {s : List Char} (h : ExponentText e s) :
    ∀ c ∈ s, Json.isWordChar c = true := by
  intro c hc
  cases h with
  | none => cases hc
  | @some negative e sign ds he hsign hds =>
      rcases List.mem_cons.1 hc with rfl | hc
      · rcases he with rfl | rfl <;> rfl
      · rcases List.mem_append.1 hc with hc | hc
        · exact List.all_eq_true.1 (isWordChar_of_sign hsign) c hc
        · exact isWordChar_of_isDigit (hds.2 c hc)

/-- A numeral is one word: it is not empty, and nothing in it ends a
word. -/
theorem NumberText.isWordChar {n : Numeral} {s : List Char}
    (h : NumberText n s) :
    s ≠ [] ∧ ∀ c ∈ s, Json.isWordChar c = true := by
  cases h with
  | @mk negative whole fraction exponent s t hwhole hzero hs ht =>
      have hminus : (minus negative).all Json.isWordChar = true := by
        cases negative <;> rfl
      refine ⟨?_, fun c hc => ?_⟩
      · intro hnil
        have hempty := (List.append_eq_nil_iff.1 hnil).2
        exact hwhole.1 (List.append_eq_nil_iff.1 hempty).1
      · simp only [List.mem_append] at hc
        rcases hc with hc | hc | hc | hc
        · exact List.all_eq_true.1 hminus c hc
        · exact isWordChar_of_isDigit (hwhole.2 c hc)
        · exact hs.isWordChar c hc
        · exact ht.isWordChar c hc

/-- No literal is a number, so a number is taken for nothing else. -/
theorem NumberText.wordToken? {n : Numeral} {s : List Char}
    (h : NumberText n s) : Json.wordToken? s = some (.number n) := by
  have hn := Numeral.ofChars?_of_text h
  have hliteral : ∀ w, Numeral.ofChars? w = none → s ≠ w := by
    rintro w hw rfl
    rw [hw] at hn
    cases hn
  unfold Json.wordToken?
  rw [if_neg (hliteral _ rfl), if_neg (hliteral _ rfl),
    if_neg (hliteral _ rfl), hn]
  rfl

-- ================================================================ tokens

section
variable {t : Token} {ts : List Token} {s : List Char}

/-- The text of a word. -/
theorem TokenText.word (h : TokenText t s) (ht : t.isWord = true) :
    s ≠ [] ∧ (∀ c ∈ s, isWordChar c = true) ∧ wordToken? s = some t := by
  cases h with
  | null => exact ⟨List.cons_ne_nil _ _, List.all_eq_true.1 rfl, rfl⟩
  | isTrue => exact ⟨List.cons_ne_nil _ _, List.all_eq_true.1 rfl, rfl⟩
  | isFalse => exact ⟨List.cons_ne_nil _ _, List.all_eq_true.1 rfl, rfl⟩
  | number h => exact ⟨h.isWordChar.1, h.isWordChar.2, h.wordToken?⟩
  | _ => cases ht

/-- Signs and strings are lexed on their own, whatever follows. -/
theorem TokenText.lexes (h : TokenText t s) (ht : t.isWord = false) :
    Lexes s [t] := by
  cases h with
  | openBrace => exact .openBrace
  | closeBrace => exact .closeBrace
  | openBracket => exact .openBracket
  | closeBracket => exact .closeBracket
  | colon => exact .colon
  | comma => exact .comma
  | @string ps s h =>
      intro acc rest
      have hopen : ∀ gs, Lexer.run ⟨.between, acc⟩ (.char '"' :: gs)
          = Lexer.run ⟨.quoted [], acc⟩ gs := fun _ => rfl
      have hclose : ∀ seen gs,
          Lexer.run ⟨.quoted seen, acc⟩ (.char '"' :: gs)
            = Lexer.run ⟨.between, .string seen.reverse :: acc⟩ gs :=
        fun _ _ => rfl
      rw [List.map_cons, List.cons_append, hopen, List.map_append,
        List.append_assoc, h.run, List.map_singleton,
        List.singleton_append, hclose]
      simp
  | _ => cases ht

/-- Where a token begins that is no word, no word goes on. -/
theorem TokenText.endsWord (h : TokenText t s) (ht : t.isWord = false)
    (r : List Char) : EndsWord (s ++ r) := by
  cases h with
  | number h => cases ht
  | null => cases ht
  | isTrue => cases ht
  | isFalse => cases ht
  | _ =>
      rintro c ⟨⟩
      rfl

/-- Tokens of which no two words stand side by side. -/
inductive Apart : List Token → Prop where
  | nil : Apart []
  | sign {t : Token} {ts : List Token} (ht : t.isWord = false)
      (h : Apart ts) : Apart (t :: ts)
  | word {t : Token} {ts : List Token}
      (hts : ∀ u ∈ ts.head?, u.isWord = false) (h : Apart ts) :
      Apart (t :: ts)

/-- Each blank of the grammar is one to the lexer, and ends a word. -/
theorem isBlank_of_mem : ∀ c ∈ blanks,
    isBlank c = true ∧ isWordChar c = false := by
  intro c hc
  simp only [blanks, List.mem_cons, List.not_mem_nil, or_false] at hc
  rcases hc with rfl | rfl | rfl | rfl <;> exact ⟨rfl, rfl⟩

/-- So words end where blanks or tokens that are no words follow. -/
theorem Spaced.endsWord (h : Spaced ts s)
    (hts : ∀ u ∈ ts.head?, u.isWord = false) : EndsWord s := by
  cases h with
  | nil => exact nofun
  | blank hc _ =>
      rintro c ⟨⟩
      exact (isBlank_of_mem _ hc).2
  | token ht _ => exact ht.endsWord (hts _ rfl) _

/-- A spaced text of tokens is lexed as these tokens, if no two words
stand side by side. Signs and strings are taken as they come; for a
word the induction is on what stands behind it, since that is where it
ends. -/
theorem Spaced.lexed (h : Spaced ts s) (hts : Apart ts) : ∀ acc : List Token,
    (Lexer.run ⟨.between, acc⟩ (s.map .char)).bind Lexer.finish
      = some (acc.reverse ++ ts) := by
  induction h with
  | nil =>
      intro acc
      rw [List.append_nil]
      rfl
  | blank hc _ ih =>
      intro acc
      have hblank := Lexes.blank (isBlank_of_mem _ hc).1 acc
      rw [← ih hts acc, List.map_cons]
      exact congrArg (Option.bind · Lexer.finish) (hblank _)
  | @token t ts s r ht hr ih =>
      intro acc
      have hsplit : acc.reverse ++ t :: ts = (t :: acc).reverse ++ ts := by
        simp
      rw [hsplit]
      cases hword : t.isWord with
      | false =>
          have hrest : Apart ts := by cases hts <;> assumption
          rw [← ih hrest (t :: acc), List.map_append,
            ht.lexes hword acc (r.map .char)]
          rfl
      | true =>
          obtain ⟨hne, hall, htoken⟩ := ht.word hword
          cases hts with
          -- the token is a word, so the tokens behind it begin with
          -- none
          | sign hsign _ =>
              rw [hword] at hsign
              cases hsign
          | word hnext hrest =>
              rw [← ih hrest (t :: acc)]
              exact lex_word hne hall htoken (hr.endsWord hnext)

end

-- ============================================================= documents

namespace Document

mutual
/-- The words of a document stand apart, from each other and from what
stands behind it. -/
theorem apart_tokens : ∀ (d : Document) {ts : List Token},
    (∀ u ∈ ts.head?, u.isWord = false) → Apart ts → Apart (d.tokens ++ ts)
  | .null, _, hts, h => .word hts h
  | .bool _, _, hts, h => .word hts h
  | .number _, _, hts, h => .word hts h
  | .string _, _, _, h => .sign rfl h
  | .array items, _, _, h => .sign rfl (apart_items true items h).1
  | .object members, _, _, h => .sign rfl (apart_members true members h).1

/-- The items of an array, with a comma before each but the first.
Behind a comma or the closing bracket no word is open. -/
theorem apart_items (first : Bool) : ∀ (items : List Document)
    {ts : List Token}, Apart ts → Apart (itemTokens first items ++ ts)
      ∧ (first = false →
        ∀ u ∈ (itemTokens first items ++ ts).head?, u.isWord = false)
  | [], _, h => by
      refine ⟨.sign rfl h, ?_⟩
      rintro - u ⟨⟩
      rfl
  | d :: rest, ts, h => by
      obtain ⟨hrest, hhead⟩ := apart_items false rest h
      have hall := apart_tokens d (hhead rfl) hrest
      cases first with
      | true =>
          refine ⟨?_, nofun⟩
          simpa [itemTokens] using hall
      | false =>
          refine ⟨?_, ?_⟩
          · simpa [itemTokens] using Apart.sign rfl hall
          · rintro - u ⟨⟩
            rfl

/-- The members of an object. Names and colons keep the values apart,
and commas the members. -/
theorem apart_members (first : Bool) :
    ∀ (members : List (Pieces × Document)) {ts : List Token},
      Apart ts → Apart (memberTokens first members ++ ts)
        ∧ (first = false →
          ∀ u ∈ (memberTokens first members ++ ts).head?,
            u.isWord = false)
  | [], _, h => by
      refine ⟨.sign rfl h, ?_⟩
      rintro - u ⟨⟩
      rfl
  | (ps, d) :: rest, ts, h => by
      obtain ⟨hrest, hhead⟩ := apart_members false rest h
      have hall := apart_tokens d (hhead rfl) hrest
      have hmember : Apart (.string ps :: .colon ::
          (d.tokens ++ (memberTokens false rest ++ ts))) :=
        .sign rfl (.sign rfl hall)
      cases first with
      | true =>
          refine ⟨?_, nofun⟩
          simpa [memberTokens] using hmember
      | false =>
          refine ⟨?_, ?_⟩
          · simpa [memberTokens] using Apart.sign rfl hmember
          · rintro - u ⟨⟩
            rfl
end

end Document

-- =============================================================== parsing

namespace Parser

open Document (itemTokens memberTokens)

/-- Where the first item of an array may begin, a document begins it. -/
theorem run_first (d : Document) (stack : List Frame) (ts : List Token) :
    run ⟨.firstItem, stack⟩ (d.tokens ++ ts)
      = run ⟨.value, .array [] :: stack⟩ (d.tokens ++ ts) := by
  cases d <;> rfl

mutual
/-- A document is given to whatever is open around it. -/
theorem run_tokens : ∀ (d : Document) (stack : List Frame)
    (ts : List Token),
    run ⟨.value, stack⟩ (d.tokens ++ ts) = (deliver d stack).run ts
  | .null, _, _ => rfl
  | .bool _, _, _ => rfl
  | .number _, _, _ => rfl
  | .string _, _, _ => rfl
  | .array [], _, _ => rfl
  | .array (d :: rest), stack, ts => by
      show run ⟨.firstItem, stack⟩
        ((d.tokens ++ itemTokens false rest) ++ ts) = _
      rw [List.append_assoc, run_first, run_tokens d]
      exact run_items rest [d] stack ts
  | .object [], _, _ => rfl
  | .object ((ps, d) :: rest), stack, ts => by
      show run ⟨.value, .object [] ps :: stack⟩
        ((d.tokens ++ memberTokens false rest) ++ ts) = _
      rw [List.append_assoc, run_tokens d]
      exact run_members rest [(ps, d)] stack ts

/-- The items of an array that is open, and its end. -/
theorem run_items : ∀ (items before : List Document) (stack : List Frame)
    (ts : List Token),
    run ⟨.comma, .array before :: stack⟩ (itemTokens false items ++ ts)
      = (deliver (.array (before.reverse ++ items)) stack).run ts
  | [], before, stack, ts => by
      rw [List.append_nil]
      rfl
  | d :: rest, before, stack, ts => by
      show run ⟨.value, .array before :: stack⟩
        ((d.tokens ++ itemTokens false rest) ++ ts) = _
      rw [List.append_assoc, run_tokens d]
      show run ⟨.comma, .array (d :: before) :: stack⟩
        (itemTokens false rest ++ ts) = _
      rw [run_items rest, List.reverse_cons, List.append_assoc]
      rfl

/-- The members of an object that is open, and its end. -/
theorem run_members : ∀ (members before : List (Pieces × Document))
    (stack : List Frame) (ts : List Token),
    run ⟨.comma, .object before [] :: stack⟩
        (memberTokens false members ++ ts)
      = (deliver (.object (before.reverse ++ members)) stack).run ts
  | [], before, stack, ts => by
      rw [List.append_nil]
      rfl
  | (ps, d) :: rest, before, stack, ts => by
      show run ⟨.value, .object before ps :: stack⟩
        ((d.tokens ++ memberTokens false rest) ++ ts) = _
      rw [List.append_assoc, run_tokens d]
      show run ⟨.comma, .object ((ps, d) :: before) [] :: stack⟩
        (memberTokens false rest ++ ts) = _
      rw [run_members rest, List.reverse_cons, List.append_assoc]
      rfl
end

end Parser

namespace Document

/-- The tokens of a document are parsed as it: given to nothing that is
open, it is the result. -/
theorem ofTokens?_tokens (d : Document) : ofTokens? d.tokens = some d := by
  have hrun := Parser.run_tokens d [] []
  rw [List.append_nil] at hrun
  unfold ofTokens?
  rw [hrun]
  rfl

/-- A text of a document is lexed as the tokens of the document. -/
theorem tokens?_of_hasText {d : Document} {s : List Char}
    (h : d.HasText s) : tokens? (s.map .char) = some d.tokens := by
  have hapart := apart_tokens d (fun u hu => by cases hu) .nil
  rw [List.append_nil] at hapart
  exact Spaced.lexed h hapart []

/-- A text of a document is read as that document. -/
theorem ofBytes?_of_hasText {d : Document} {s : List Char}
    (h : d.HasText s) : ofBytes? (Text.encodeChars s) = some d := by
  unfold ofBytes?
  rw [Text.decode_encodeChars, tokens?_of_hasText h]
  exact ofTokens?_tokens d

/-- The same holds of a text that was never in bytes. -/
theorem ofString?_of_hasText {d : Document} {s : String}
    (h : d.HasText s.toList) : ofString? s = some d := by
  unfold ofString?
  rw [tokens?_of_hasText h]
  exact ofTokens?_tokens d

end Document
end Json
end SecurityConsole
