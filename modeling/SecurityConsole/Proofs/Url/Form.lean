/-
Queries in form encoding are read back: behind the pairs that a query
already holds stand the pairs that were added, with the names and texts
that they were added with (`decode?_appendPairs`).

A name or text is written without any of the signs that separate
(`not_separator`), so pairs are cut where they were joined.
-/
import SecurityConsole.Url.Address
import SecurityConsole.Proofs.Url.Percent

namespace SecurityConsole

namespace Url.Form

-- ================================================================== texts

/-- What a form writes in a name or text. -/
theorem of_mem_encodeChars {s : List Char} {c : Char}
    (h : c ∈ encodeChars s) :
    c = '+' ∨ isPlain c = true ∨ c = '%'
      ∨ (Text.Hex.value? c).isSome = true := by
  obtain ⟨d, hd, hc⟩ := List.mem_flatMap.1 h
  unfold encodeChar at hc
  by_cases hblank : d = ' '
  · rw [if_pos hblank] at hc
    exact .inl (List.mem_singleton.1 hc)
  · rw [if_neg hblank] at hc
    have hmem : c ∈ escapeChars isPlain [d] := by
      rw [escapeChars_cons]
      exact List.mem_append_left _ hc
    exact .inr ((of_mem_escapeChars hmem).imp_left And.right)

/-- No name or text is written with a sign that separates. -/
theorem not_separator {s : List Char} {c : Char} (h : c ∈ encodeChars s) :
    c ≠ '&' ∧ c ≠ '=' := by
  refine ⟨?_, ?_⟩
  all_goals
    rintro rfl
    rcases of_mem_encodeChars h with h | h | h | h <;> revert h <;> decide

/-- A plus sign stands for a blank. -/
def blankAgain (c : Char) : Char := if c = '+' then ' ' else c

/-- Without a plus sign there is no blank to bring back. -/
theorem map_blankAgain {s : List Char} (h : '+' ∉ s) :
    s.map blankAgain = s := by
  refine (List.map_congr_left fun c hc => ?_).trans (List.map_id s)
  refine if_neg ?_
  rintro rfl
  exact h hc

/-- Blanks are written apart; the rest is escaped. -/
theorem blanks_encodeChars (s : List Char) :
    (encodeChars s).map blankAgain
      = escapeChars (fun c => c = ' ' || isPlain c) s := by
  induction s with
  | nil => rfl
  | cons c s ih =>
      rw [escapeChars_cons, ← ih, encodeChars, List.flatMap_cons,
        List.map_append]
      congr 1
      unfold encodeChar
      by_cases hblank : c = ' '
      · rw [hblank]
        rfl
      · have hsame : escapeChar (fun c => c = ' ' || isPlain c) c
            = escapeChar isPlain c := by
          simp only [escapeChar, hblank, decide_false, Bool.false_or]
        rw [if_neg hblank, hsame]
        refine map_blankAgain fun hplus => ?_
        have hmem : '+' ∈ escapeChars isPlain [c] := by
          rw [escapeChars_cons]
          exact List.mem_append_left _ hplus
        rcases of_mem_escapeChars hmem with ⟨-, h⟩ | h | h <;> revert h <;>
          decide

/-- A name or text is read back. -/
theorem decodeText?_encodeChars (s : String) :
    decodeText? (encodeChars s.toList) = some s := by
  unfold decodeText?
  rw [show (fun c => if c = '+' then ' ' else c) = blankAgain from rfl,
    blanks_encodeChars, unescapeBytes_escapeChars (by decide)]
  exact Text.decodeString?_encode s

-- ================================================================== pairs

/-- A pair is cut at its equals sign, which neither side has. -/
theorem decodePair?_encodePair (p : String × String) :
    decodePair? (encodePair p) = some p := by
  have hname : ∀ c ∈ encodeChars p.1.toList, decide (c ≠ '=') = true :=
    fun c hc => decide_eq_true (not_separator hc).2
  have hends : ('=' :: encodeChars p.2.toList).takeWhile (· ≠ '=') = [] :=
    rfl
  have hbehind : ('=' :: encodeChars p.2.toList).dropWhile (· ≠ '=')
      = '=' :: encodeChars p.2.toList := rfl
  unfold decodePair? encodePair
  rw [List.takeWhile_append_of_pos hname,
    List.dropWhile_append_of_pos hname, hends, hbehind, List.append_nil]
  simp only [List.drop_succ_cons, List.drop_zero, decodeText?_encodeChars]

/-- The parts of a query that hold something. -/
def parts (query : List Char) : List (List Char) :=
  (Text.cutAt (· = '&') query).filter (!·.isEmpty)

/-- A pair is a part. -/
theorem parts_encodePair (p : String × String) :
    parts (encodePair p) = [encodePair p] := by
  have hwhole : ∀ c ∈ encodePair p, decide (c = '&') = false := by
    intro c hc
    refine decide_eq_false ?_
    rcases List.mem_append.1 hc with hc | hc
    · exact (not_separator hc).1
    · rcases List.mem_cons.1 hc with rfl | hc
      · decide
      · exact (not_separator hc).1
  have hne : (encodePair p).isEmpty = false := by
    unfold encodePair
    simp
  unfold parts
  rw [Text.cutAt_of_none hwhole]
  simp [hne]

/-- A pair that is added to a query is its last part. -/
theorem parts_added (query : List Char) (p : String × String) :
    parts ((if query.isEmpty then query else query ++ ['&'])
        ++ encodePair p)
      = parts query ++ [encodePair p] := by
  cases query with
  | nil => exact parts_encodePair p
  | cons c query =>
      show parts ((c :: query) ++ ['&'] ++ encodePair p) = _
      rw [List.append_assoc]
      show parts ((c :: query) ++ '&' :: encodePair p) = _
      rw [← parts_encodePair p]
      unfold parts
      rw [Text.cutAt_append (by decide), List.filter_append]

/-- The pairs of a query that pairs were added to. -/
theorem decode?_appendPairs (pairs : List (String × String)) :
    ∀ query : List Char,
      decode? (String.ofList (appendPairs query pairs))
        = (decode? (String.ofList query)).map (· ++ pairs) := by
  have hparts : ∀ query : List Char, decode? (String.ofList query)
      = (parts query).mapM decodePair? := by
    intro query
    unfold decode? parts
    rw [String.toList_ofList]
  induction pairs with
  | nil =>
      intro query
      rw [appendPairs]
      simp
  | cons p pairs ih =>
      intro query
      rw [appendPairs, ih, hparts, hparts, parts_added, List.mapM_append]
      cases (parts query).mapM decodePair? with
      | none => rfl
      | some before => simp [decodePair?_encodePair]

/-- Pairs are cut at the signs between them, one by one. -/
theorem decode?_encode (pairs : List (String × String)) :
    decode? (encode pairs) = some pairs := by
  unfold encode
  rw [decode?_appendPairs]
  rfl

-- ============================================================= no pairs

/-- The query that pairs make: none without pairs. -/
def query? : List (String × String) → Option String
  | [] => none
  | pairs => some (encode pairs)

theorem decode?_query? (pairs : List (String × String)) :
    decode? ((query? pairs).getD "") = some pairs := by
  cases pairs with
  | nil => rfl
  | cons p rest => exact decode?_encode (p :: rest)

/-- There is a query just if something is asked. -/
theorem query?_isSome_iff {pairs : List (String × String)} :
    (query? pairs).isSome = true ↔ pairs ≠ [] := by
  cases pairs with
  | nil => exact ⟨nofun, fun h => absurd rfl h⟩
  | cons p rest => exact ⟨fun _ => List.cons_ne_nil p rest, fun _ => rfl⟩

/-- Only without pairs is there nothing to ask with. -/
theorem appendPairs_ne_nil {pairs : List (String × String)} :
    ∀ {query : List Char}, query ≠ [] ∨ pairs ≠ [] →
      appendPairs query pairs ≠ [] := by
  induction pairs with
  | nil => exact fun h => h.resolve_right fun hne => hne rfl
  | cons p rest ih =>
      intro query _
      rw [appendPairs]
      refine ih (.inl fun hnil => ?_)
      have hpair := (List.append_eq_nil_iff.1 hnil).2
      unfold encodePair at hpair
      cases (List.append_eq_nil_iff.1 hpair).2

/-- Pairs are the whole query of an address that had none. -/
theorem query_withPairs {a : Address} (h : a.query = none)
    (pairs : List (String × String)) :
    (a.withPairs pairs).query = query? pairs := by
  unfold Address.withPairs
  rw [h]
  cases pairs with
  | nil => rfl
  | cons p rest =>
      have hne : appendPairs [] (p :: rest) ≠ [] :=
        appendPairs_ne_nil (.inr (List.cons_ne_nil p rest))
      exact if_neg (by simpa using hne)

end Url.Form
end SecurityConsole
