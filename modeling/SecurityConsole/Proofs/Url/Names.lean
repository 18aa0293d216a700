/-
Which names stay what they are in a path.

A path that is put together from names is read as these names just when
every one of them stays a segment, and the last does not end in padding
(`Address.child_spells_iff`).

What a path may lose is weighed: each segment weighs the bytes that it
stands for, and one. Whatever is dropped, moved along or escaped makes the
path lighter (`same_or_shorter`, `names_or_lighter`, `plain_or_lighter`),
so what weighs as much as the path has kept all of it
(`Address.kept_or_lighter`); and what spells the names of the path does
(`Address.Spells.weight_eq`).
-/
import SecurityConsole.Proofs.Url.Resolve

namespace SecurityConsole.Url

open Text (Bytes cutAt encodeChars)

-- ================================================================= bytes

/-- Hexadecimal digits are not escaped in a path, so no escape comes
apart. -/
theorem hex_pathPlain {c : Char} (h : (Text.Hex.value? c).isSome = true) :
    pathPlain c = true := by
  have hrange : (48 ≤ c.toNat ∧ c.toNat ≤ 57)
      ∨ (97 ≤ c.toNat ∧ c.toNat ≤ 102) ∨ (65 ≤ c.toNat ∧ c.toNat ≤ 70) := by
    unfold Text.Hex.value? at h
    split at h
    · rename_i hd
      exact .inl (by simpa [Char.isDigit, UInt32.le_iff_toNat_le] using hd)
    · split at h
      · rename_i hd
        exact .inr (.inl hd)
      · split at h
        · rename_i hd
          exact .inr (.inr hd)
        · cases h
  have hcontrol : isControl c = false := by
    unfold isControl
    simp
    omega
  have hlisted : c ∉ [' ', '"', '#', '<', '>', '?', '\x60', '\x7b', '\x7d'] := by
    intro hmem
    simp only [List.mem_cons, List.not_mem_nil, or_false] at hmem
    rcases hmem with rfl | rfl | rfl | rfl | rfl | rfl | rfl | rfl | rfl
      <;> revert hrange <;> decide
  unfold pathPlain
  rw [hcontrol, decide_eq_false hlisted]
  rfl

/-- What a segment is written as stands for what it stands for. -/
theorem unescapeBytes_segment (s : List Char) :
    unescapeBytes (escapeChars pathPlain s) = unescapeBytes s :=
  unescapeBytes_of_keeps (fun _ => hex_pathPlain) rfl s

/-- The bytes of a text tell it. -/
theorem encodeChars_injective {s t : List Char}
    (h : encodeChars s = encodeChars t) : s = t := by
  have hglyphs := congrArg Text.decode h
  rw [Text.decode_encodeChars, Text.decode_encodeChars] at hglyphs
  exact (List.map_inj_right fun _ _ => Text.Glyph.char.inj).1 hglyphs

/-- A text that is not empty stands for some bytes, whether it begins
with an escape or not. -/
theorem unescapeBytes_ne_nil {s : List Char} (h : s ≠ []) :
    unescapeBytes s ≠ [] := by
  induction s using escape_induction with
  | nil => exact absurd rfl h
  | escape a b x y rest hx hy _ =>
      rw [unescapeBytes_hex _ hx hy]
      exact List.cons_ne_nil _ _
  | plain c rest hplain _ =>
      have hpos := c.utf8Size_pos
      rw [unescapeBytes_cons hplain]
      intro hnil
      have hlen := congrArg List.length (List.append_eq_nil_iff.1 hnil).1
      rw [String.length_utf8EncodeChar, List.length_nil] at hlen
      omega

/-- Dropping anything from a text makes it shorter. -/
theorem same_or_shorter {s t : List Char}
    (h : s.Sublist t) :
    s = t ∨ (encodeChars s).length < (encodeChars t).length := by
  induction h with
  | slnil => exact .inl rfl
  | @cons s t c h ih =>
      have hless := length_encodeChars_cons c t
      rcases ih with rfl | hlt
      · exact .inr hless
      · exact .inr (Nat.lt_trans hlt hless)
  | @cons_cons s t c h ih =>
      rcases ih with rfl | hlt
      · exact .inl rfl
      · refine .inr ?_
        rw [encodeChars_cons, encodeChars_cons, List.length_append,
          List.length_append]
        omega

-- ================================================================ weights

/-- The weight of segments that stand for bytes: the count of these, and
one for each segment. -/
def weight : List Bytes → Nat
  | [] => 0
  | bs :: rest => bs.length + 1 + weight rest

/-- Weights add up. -/
theorem weight_append (ss ts : List Bytes) :
    weight (ss ++ ts) = weight ss + weight ts := by
  induction ss with
  | nil => exact (Nat.zero_add _).symm
  | cons s ss ih =>
      rw [List.cons_append, weight, weight, ih]
      omega

theorem weight_reverse (ss : List Bytes) :
    weight ss.reverse = weight ss := by
  induction ss with
  | nil => rfl
  | cons s ss ih =>
      rw [List.reverse_cons, weight_append, ih, weight, weight, weight]
      omega

/-- Dropping a segment makes nothing heavier. -/
theorem weight_tail (ss : List Bytes) : weight ss.tail ≤ weight ss := by
  cases ss with
  | nil => exact Nat.le_refl _
  | cons s ss =>
      rw [List.tail_cons, weight]
      omega

/-- Whether a segment names something. -/
def isName (s : List Char) : Bool := !isAbove s && !isHere s

/-- A segment that only moves weighs something, since it is not
empty. -/
theorem length_pos_of_moves {s : List Char}
    (h : isAbove s = true ∨ isHere s = true) :
    0 < (unescapeBytes s).length := by
  refine List.length_pos_iff.2 (unescapeBytes_ne_nil ?_)
  rintro rfl
  revert h
  decide

/-- What segments are written as stands for what they stand for. -/
theorem stands_written (ss : List (List Char)) :
    (ss.map (escapeChars pathPlain)).map unescapeBytes
      = ss.map unescapeBytes := by
  rw [List.map_map]
  exact List.map_congr_left fun s _ => unescapeBytes_segment s

/-- A walk along names passes them all. -/
theorem walk_of_names {ss : List (List Char)} (h : ss.all isName = true) :
    ∀ passed, walk passed ss
      = passed.reverse ++ ss.map (escapeChars pathPlain) := by
  induction ss with
  | nil => exact fun passed => (List.append_nil _).symm
  | cons s rest ih =>
      intro passed
      obtain ⟨hs, hrest⟩ := Bool.and_eq_true_iff.1 h
      obtain ⟨habove, hhere⟩ := Bool.and_eq_true_iff.1 hs
      rw [walk, if_neg (by simpa using habove), if_neg (by simpa using hhere),
        ih hrest, List.reverse_cons, List.append_assoc]
      rfl

/-- The weight of what segments stand for. -/
def readWeight (ss : List (List Char)) : Nat := weight (ss.map unescapeBytes)

/-- The weight of the text of segments. -/
def textWeight (ss : List (List Char)) : Nat := weight (ss.map encodeChars)

theorem readWeight_cons (s : List Char) (ss : List (List Char)) :
    readWeight (s :: ss) = (unescapeBytes s).length + 1 + readWeight ss := rfl

theorem textWeight_cons (s : List Char) (ss : List (List Char)) :
    textWeight (s :: ss) = (encodeChars s).length + 1 + textWeight ss := rfl

/-- Weights of what segments stand for add up. -/
theorem readWeight_append (ss ts : List (List Char)) :
    readWeight (ss ++ ts) = readWeight ss + readWeight ts := by
  unfold readWeight
  rw [List.map_append, weight_append]

theorem readWeight_reverse (ss : List (List Char)) :
    readWeight ss.reverse = readWeight ss := by
  unfold readWeight
  rw [List.map_reverse, weight_reverse]

/-- And dropping one makes nothing heavier. -/
theorem readWeight_tail (ss : List (List Char)) :
    readWeight ss.tail ≤ readWeight ss := by
  unfold readWeight
  rw [List.map_tail]
  exact weight_tail _

/-- In either case, walking along segments makes nothing heavier. -/
theorem le_of_names_or_lighter {ss passed : List (List Char)}
    (h : ss.all isName = true
      ∨ readWeight (walk passed ss) < readWeight passed + readWeight ss) :
    readWeight (walk passed ss) ≤ readWeight passed + readWeight ss := by
  rcases h with hall | hlt
  · refine Nat.le_of_eq ?_
    rw [walk_of_names hall, readWeight_append, readWeight_reverse]
    unfold readWeight
    rw [stands_written]
  · exact Nat.le_of_lt hlt

/-- Any other walk leads to what is lighter than what it goes along. -/
theorem names_or_lighter (ss : List (List Char)) : ∀ passed,
    ss.all isName = true
      ∨ readWeight (walk passed ss) < readWeight passed + readWeight ss := by
  induction ss with
  | nil => exact fun passed => .inl rfl
  | cons s rest ih =>
      intro passed
      have hle := fun passed => le_of_names_or_lighter (ih passed)
      have hnil : ∀ ss, readWeight ([] :: ss) = 1 + readWeight ss :=
        fun _ => rfl
      rw [walk, readWeight_cons]
      by_cases habove : isAbove s = true
      · have hpos := length_pos_of_moves (.inl habove)
        have htail := readWeight_tail passed
        right
        rw [if_pos habove]
        split
        · rw [readWeight_reverse, hnil]
          omega
        · have hrest := hle passed.tail
          omega
      · rw [if_neg habove]
        by_cases hhere : isHere s = true
        · have hpos := length_pos_of_moves (.inr hhere)
          right
          rw [if_pos hhere]
          split
          · rw [readWeight_reverse, hnil]
            omega
          · have hrest := hle passed
            omega
        · rw [if_neg hhere]
          -- a name is passed with all its weight; the rest decides
          rcases ih (escapeChars pathPlain s :: passed) with hall | hlt
          · refine .inl ?_
            rw [List.all_cons, hall]
            simp [isName, habove, hhere]
          · rw [readWeight_cons, unescapeBytes_segment] at hlt
            exact .inr (by omega)

/-- What a text stands for is no heavier than its own bytes: an escape
stands for one and has three. -/
theorem readWeight_le (ss : List (List Char)) :
    readWeight ss ≤ textWeight ss := by
  induction ss with
  | nil => exact Nat.le_refl _
  | cons s ss ih =>
      have hs := length_unescapeBytes s
      rw [readWeight_cons, textWeight_cons]
      omega

/-- Segments that hold an escape stand for less than their own text. -/
theorem plain_or_lighter (ss : List (List Char)) :
    (∀ s ∈ ss, hasEscape s = false) ∨ readWeight ss < textWeight ss := by
  induction ss with
  | nil => exact .inl nofun
  | cons s ss ih =>
      have hs := length_unescapeBytes s
      have hss := readWeight_le ss
      rw [readWeight_cons, textWeight_cons]
      cases hescape : hasEscape s with
      | true =>
          have hlt := length_unescapeBytes_of_hasEscape hescape
          exact .inr (by omega)
      | false =>
          rcases ih with hnone | hless
          · exact .inl (List.forall_mem_cons.2 ⟨hescape, hnone⟩)
          · exact .inr (by omega)

/-- The segments of a path weigh as much as the path, and a slash in front
of it. -/
theorem textWeight_cutAt (t : List Char) :
    textWeight (cutAt isSlash t) = (encodeChars t).length + 1 := by
  induction t with
  | nil => rfl
  | cons c t ih =>
      rw [cutAt, encodeChars_cons, List.length_append,
        String.length_utf8EncodeChar]
      by_cases hc : isSlash c = true
      · have hsize : c.utf8Size = 1 := by
          have hcases : c = '/' ∨ c = '\\' := by simpa [isSlash] using hc
          rcases hcases with rfl | rfl <;> rfl
        rw [if_pos hc, textWeight_cons, ih, hsize]
        have hnil : (encodeChars []).length = 0 := rfl
        omega
      · rw [if_neg hc]
        cases hcut : cutAt isSlash t with
        | nil => exact absurd hcut (Text.cutAt_ne_nil _ _)
        | cons part parts =>
            rw [hcut, textWeight_cons] at ih
            simp only
            rw [textWeight_cons, encodeChars_cons, List.length_append,
              String.length_utf8EncodeChar]
            omega

-- =================================================================== paths

/-- The path that is put together from names. -/
def pathText (names : List (List Char)) : List Char :=
  names.flatMap ('/' :: ·)

theorem pathText_cons (s : List Char) (rest : List (List Char)) :
    pathText (s :: rest) = '/' :: (s ++ pathText rest) := rfl

/-- A path weighs as much as the names that it is put together from. -/
theorem length_pathText (names : List (List Char)) :
    (encodeChars (pathText names)).length = textWeight names := by
  induction names with
  | nil => rfl
  | cons s rest ih =>
      have happend : encodeChars (s ++ pathText rest)
          = encodeChars s ++ encodeChars (pathText rest) :=
        List.flatMap_append
      rw [pathText_cons, encodeChars_cons, happend, textWeight_cons, ← ih,
        List.length_append, List.length_append,
        String.length_utf8EncodeChar]
      show 1 + _ = _
      omega

/-- A path of names without slashes has these as segments. -/
theorem cutAt_pathText {rest : List (List Char)} : ∀ {s : List Char},
    (∀ name ∈ s :: rest, ∀ c ∈ name, isSlash c = false) →
      cutAt isSlash (s ++ pathText rest) = s :: rest := by
  induction rest with
  | nil =>
      intro s h
      rw [show pathText [] = [] from rfl, List.append_nil]
      exact Text.cutAt_of_none (h s List.mem_cons_self)
  | cons r rest ih =>
      intro s h
      rw [pathText_cons, Text.cutAt_append rfl,
        Text.cutAt_of_none (h s List.mem_cons_self),
        ih fun name hname => h name (List.mem_cons_of_mem s hname)]
      rfl

/-- A character of a path is a slash, or one of a name. -/
theorem mem_pathText {names : List (List Char)} {c : Char} :
    c ∈ pathText names → c = '/' ∨ ∃ name ∈ names, c ∈ name := by
  intro h
  obtain ⟨name, hname, hc⟩ := List.mem_flatMap.1 h
  rcases List.mem_cons.1 hc with rfl | hc
  · exact .inl rfl
  · exact .inr ⟨name, hname, hc⟩

-- ================================================================ the ends

/-- Whether a text does not end in padding. -/
def endsPlain (s : List Char) : Bool := s.getLast?.all (!isPadding ·)

/-- How a path ends is decided behind its last slash. -/
theorem endsPlain_append (s t : List Char) :
    endsPlain (s ++ '/' :: t) = endsPlain t := by
  unfold endsPlain
  rw [List.getLast?_append]
  cases t with
  | nil => rfl
  | cons c t =>
      rw [List.getLast?_cons_cons]
      cases hlast : (c :: t).getLast? with
      | none => simp at hlast
      | some d => rfl

/-- A path does not end in padding if its last name does not. -/
theorem endsPlain_pathText {rest : List (List Char)} : ∀ {s : List Char},
    endsPlain (s ++ pathText rest)
      = endsPlain ((s :: rest).getLast (List.cons_ne_nil s rest)) := by
  induction rest with
  | nil =>
      intro s
      rw [show pathText [] = [] from rfl, List.append_nil]
      rfl
  | cons r rest ih =>
      intro s
      rw [pathText_cons, endsPlain_append, ih]
      rfl

/-- A text loses nothing at its end just if it does not end in
padding. -/
theorem dropPadding_eq_iff (t : List Char) :
    (t.reverse.dropWhile isPadding).reverse = t ↔ endsPlain t = true := by
  unfold endsPlain
  rw [← List.head?_reverse, List.reverse_eq_iff]
  cases t.reverse with
  | nil => exact ⟨fun _ => rfl, fun _ => rfl⟩
  | cons c r =>
      cases hc : isPadding c with
      | false => simp [hc]
      | true =>
          have hlen := (List.dropWhile_sublist (l := r) isPadding).length_le
          simp only [List.dropWhile_cons, hc, if_true, List.head?_cons,
            Option.all_some, Bool.not_true, Bool.false_eq_true, iff_false]
          intro heq
          rw [heq, List.length_cons] at hlen
          omega

theorem dropPadding_sublist (t : List Char) :
    ((t.reverse.dropWhile isPadding).reverse).Sublist t := by
  have h := (List.dropWhile_sublist (l := t.reverse) isPadding).reverse
  rwa [List.reverse_reverse] at h

theorem cleanedEnd_sublist (t : List Char) : (cleanedEnd t).Sublist t :=
  List.filter_sublist.trans (dropPadding_sublist t)

/-- The texts whose ends are clean already. -/
theorem cleanedEnd_eq_iff (t : List Char) :
    cleanedEnd t = t
      ↔ endsPlain t = true ∧ ∀ c ∈ t, isBreak c = false := by
  constructor
  · intro h
    have hkept : (t.reverse.dropWhile isPadding).reverse = t := by
      have hfilter : (cleanedEnd t).Sublist
          (t.reverse.dropWhile isPadding).reverse := List.filter_sublist
      rw [h] at hfilter
      exact (dropPadding_sublist t).eq_of_length_le hfilter.length_le
    refine ⟨(dropPadding_eq_iff t).1 hkept, fun c hc => ?_⟩
    rw [← h] at hc
    simpa using (List.mem_filter.1 hc).2
  · rintro ⟨hend, hbreaks⟩
    unfold cleanedEnd
    rw [(dropPadding_eq_iff t).2 hend]
    exact List.filter_eq_self.2 fun c hc => by rw [hbreaks c hc]; rfl

-- =============================================================== keeping

/-- Whether a text keeps all of itself in a directory. -/
structure Kept (t : List Char) : Prop where
  clean : cleanedEnd t = t
  path : ∀ c ∈ t, endsPath c = false
  names : (cutAt isSlash t).all isName = true
  plain : ∀ s ∈ cutAt isSlash t, hasEscape s = false

namespace Address

/-- The address of a text that keeps all of itself. -/
theorem child_of_kept (root : Address) {t : List Char} (h : Kept t) :
    (root.child (cleanedEnd t)).segments = root.segments.dropLast
        ++ (cutAt isSlash t).map (String.ofList ∘ escapeChars pathPlain)
      ∧ (root.child (cleanedEnd t)).query = none := by
  have hpath : ∀ c ∈ t, (!endsPath c) = true := by
    intro c hc
    rw [h.path c hc]
    rfl
  have htake : (t ++ []).takeWhile (!endsPath ·) = t ++ [] :=
    List.takeWhile_append_of_pos hpath
  have hdrop : (t ++ []).dropWhile (!endsPath ·) = [] :=
    List.dropWhile_append_of_pos hpath
  rw [List.append_nil] at htake hdrop
  rw [h.clean]
  unfold child
  simp only
  rw [htake, hdrop, walk_of_names h.names, List.reverse_reverse,
    List.map_append, List.map_map, List.map_map]
  refine ⟨congrArg (· ++ _) ?_, rfl⟩
  simp [Function.comp_def]

/-- What does not keep all of itself becomes lighter. -/
theorem kept_or_lighter (root : Address) (t : List Char) :
    Kept t ∨ readWeight
        ((root.child (cleanedEnd t)).segments.map String.toList)
      < readWeight (root.segments.dropLast.map String.toList)
        + ((encodeChars t).length + 1) := by
  let path := (cleanedEnd t).takeWhile (!endsPath ·)
  let passed := (root.segments.dropLast.map String.toList).reverse
  have hsegments : (root.child (cleanedEnd t)).segments.map String.toList
      = walk passed (cutAt isSlash path) := by
    unfold child
    simp [Function.comp_def, path, passed]
  have hpassed : readWeight passed
      = readWeight (root.segments.dropLast.map String.toList) :=
    readWeight_reverse _
  have hpath : path.Sublist (cleanedEnd t) := List.takeWhile_sublist _
  -- dropped characters, moves and escapes: each stage keeps or lightens
  have hkept := same_or_shorter (hpath.trans (cleanedEnd_sublist t))
  have hnames := names_or_lighter (cutAt isSlash path) passed
  have hplain := plain_or_lighter (cutAt isSlash path)
  have hwalk := le_of_names_or_lighter hnames
  have hstands := readWeight_le (cutAt isSlash path)
  have hcut := textWeight_cutAt path
  rw [hsegments, ← hpassed]
  rcases hkept with heq | hlt
  · rw [heq] at hcut hwalk hstands hnames hplain ⊢
    rcases hnames with hnames | hlt
    · rcases hplain with hplain | hlt
      · have hclean : cleanedEnd t = t := by
          refine (cleanedEnd_sublist t).eq_of_length_le ?_
          have hlen := hpath.length_le
          rwa [heq] at hlen
        refine .inl ⟨hclean, fun c hc => ?_, hnames, hplain⟩
        have hall := List.all_takeWhile (l := cleanedEnd t)
          (p := (!endsPath ·))
        rw [show List.takeWhile _ _ = t from heq] at hall
        simpa using List.all_eq_true.1 hall c hc
      · exact .inr (by omega)
    · exact .inr (by omega)
  · exact .inr (by omega)

end Address

-- ================================================================== names

/-- Whether a name stays one segment of a path: it holds no character that
ends a segment or the path or is dropped, moves nowhere, and holds no
escape. -/
def staysSegment (s : List Char) : Bool :=
  s.all (fun c => !(isSlash c || endsPath c || isBreak c)) && isName s
    && !hasEscape s

/-- A name stays a segment if nothing in it cuts it, ends the path or
is dropped, if it does not move along the path, and if it holds no
escape. -/
theorem staysSegment_iff {s : List Char} :
    staysSegment s = true
      ↔ (∀ c ∈ s, isSlash c = false ∧ endsPath c = false
          ∧ isBreak c = false)
        ∧ isName s = true ∧ hasEscape s = false := by
  simp [staysSegment, and_assoc]

/-- A path keeps all of itself, and is cut into the names it was put
together from, just when all of them stay segments and the last does not
end in padding. -/
theorem kept_pathText_iff (s : List Char) (rest : List (List Char)) :
    (Kept (s ++ pathText rest)
        ∧ cutAt isSlash (s ++ pathText rest) = s :: rest)
      ↔ (∀ name ∈ s :: rest, staysSegment name = true)
        ∧ endsPlain ((s :: rest).getLast (List.cons_ne_nil s rest))
          = true := by
  constructor
  · rintro ⟨hkept, hcut⟩
    obtain ⟨hend, hbreaks⟩ := (cleanedEnd_eq_iff _).1 hkept.clean
    refine ⟨fun name hname => staysSegment_iff.2 ⟨fun c hc => ?_, ?_, ?_⟩, ?_⟩
    · have hmem : c ∈ s ++ pathText rest := by
        rcases List.mem_cons.1 hname with rfl | hrest
        · exact List.mem_append_left _ hc
        · exact List.mem_append_right _
            (List.mem_flatMap.2 ⟨name, hrest, List.mem_cons_of_mem _ hc⟩)
      rw [← hcut] at hname
      exact ⟨Text.not_of_mem_cutAt hname hc, hkept.path c hmem,
        hbreaks c hmem⟩
    · rw [← hcut] at hname
      exact List.all_eq_true.1 hkept.names name hname
    · rw [← hcut] at hname
      exact hkept.plain name hname
    · rw [← endsPlain_pathText]
      exact hend
  · rintro ⟨hstay, hend⟩
    have hstay := fun name hname => staysSegment_iff.1 (hstay name hname)
    have hcut : cutAt isSlash (s ++ pathText rest) = s :: rest :=
      cutAt_pathText fun name hname c hc => ((hstay name hname).1 c hc).1
    have hchars : ∀ c ∈ s ++ pathText rest,
        endsPath c = false ∧ isBreak c = false := by
      intro c hc
      have hfound : c = '/' ∨ ∃ name ∈ s :: rest, c ∈ name :=
        mem_pathText (List.mem_cons_of_mem _ hc)
      rcases hfound with rfl | ⟨name, hname, hc⟩
      · exact ⟨rfl, rfl⟩
      · exact ((hstay name hname).1 c hc).2
    refine ⟨⟨?_, fun c hc => (hchars c hc).1, ?_, ?_⟩, hcut⟩
    · exact (cleanedEnd_eq_iff _).2
        ⟨endsPlain_pathText.trans hend, fun c hc => (hchars c hc).2⟩
    · rw [hcut]
      exact List.all_eq_true.2 fun name hname => (hstay name hname).2.1
    · rw [hcut]
      exact fun name hname => (hstay name hname).2.2

namespace Address

/-- Whether an address spells names behind a directory: it has a segment
for each that stands for just this name. -/
def Spells (root a : Address) (names : List String) : Prop :=
  ∃ tail, a.segments = root.segments.dropLast ++ tail
    ∧ tail.map (fun s => unescapeBytes s.toList) = names.map Text.encode

/-- What an address spells is a matter of its segments. -/
theorem Spells.congr {root a b : Address} {names : List String}
    (h : root.Spells a names) (hsegments : a.segments = b.segments) :
    root.Spells b names := by
  obtain ⟨tail, ha, hstands⟩ := h
  exact ⟨tail, hsegments.symm.trans ha, hstands⟩

/-- An address spells just one list of names. -/
theorem Spells.unique {root a : Address} {names others : List String}
    (h : root.Spells a names) (k : root.Spells a others) :
    names = others := by
  obtain ⟨tail, ha, hstands⟩ := h
  obtain ⟨tail', ha', hstands'⟩ := k
  obtain rfl := List.append_cancel_left (ha.symm.trans ha')
  refine (List.map_inj_right fun s t hst => ?_).1 (hstands.symm.trans hstands')
  exact String.toList_inj.1 (encodeChars_injective hst)

/-- What spells names weighs as much as they do. -/
theorem Spells.weight_eq {root a : Address} {names : List String}
    (h : root.Spells a names) :
    readWeight (a.segments.map String.toList)
      = readWeight (root.segments.dropLast.map String.toList)
        + textWeight (names.map String.toList) := by
  obtain ⟨tail, hsegments, hstands⟩ := h
  have htail : readWeight (tail.map String.toList)
      = textWeight (names.map String.toList) := by
    unfold readWeight textWeight
    rw [List.map_map, List.map_map]
    exact congrArg weight hstands
  rw [hsegments, List.map_append, readWeight_append, htail]

/-- What keeps all of itself stands for the texts of its segments. -/
theorem stands_of_kept {t : List Char} (h : Kept t) :
    ((cutAt isSlash t).map (String.ofList ∘ escapeChars pathPlain)).map
        (fun s => unescapeBytes s.toList)
      = (cutAt isSlash t).map encodeChars := by
  rw [List.map_map]
  refine List.map_congr_left fun part hpart => ?_
  show unescapeBytes (String.ofList (escapeChars pathPlain part)).toList = _
  rw [String.toList_ofList, unescapeBytes_segment]
  exact (unescapeBytes_eq_iff part).2 (h.plain part hpart)

/-- What spells the names that it was put together from keeps all of
itself, and these are its segments. -/
theorem kept_of_spells {root : Address} {names : List String}
    {t : List Char} (hpath : pathText (names.map String.toList) = '/' :: t)
    (h : root.Spells (root.child (cleanedEnd t)) names) :
    Kept t ∧ cutAt isSlash t = names.map String.toList := by
  have hweight := h.weight_eq
  rw [← length_pathText, hpath, encodeChars_cons, List.length_append,
    String.length_utf8EncodeChar] at hweight
  have hsize : '/'.utf8Size = 1 := rfl
  -- the names weigh as much as the text, so nothing of it was lost
  have hkept : Kept t := by
    rcases kept_or_lighter root t with hkept | hlt
    · exact hkept
    · omega
  obtain ⟨tail, hsegments, hstands⟩ := h
  rw [(child_of_kept root hkept).1] at hsegments
  obtain rfl := List.append_cancel_left hsegments
  rw [stands_of_kept hkept] at hstands
  have hencode : names.map Text.encode
      = (names.map String.toList).map encodeChars := by
    rw [List.map_map]
    rfl
  rw [hencode] at hstands
  exact ⟨hkept,
    (List.map_inj_right fun _ _ => encodeChars_injective).1 hstands⟩

/-- A path that is put together from names spells them in a directory just
when all of them stay segments, and the last does not end in padding. -/
theorem child_spells_iff (root : Address) (s : String)
    (rest : List String) :
    root.Spells (root.child (cleanedEnd
        (s.toList ++ pathText (rest.map String.toList)))) (s :: rest)
      ↔ (∀ name ∈ s :: rest, staysSegment name.toList = true)
        ∧ endsPlain ((s :: rest).getLast (List.cons_ne_nil s rest)).toList
          = true := by
  have hiff := kept_pathText_iff s.toList (rest.map String.toList)
  have hlast : (s.toList :: rest.map String.toList).getLast
        (List.cons_ne_nil _ _)
      = ((s :: rest).getLast (List.cons_ne_nil s rest)).toList :=
    List.getLast_map (l := s :: rest) (f := String.toList)
      (List.cons_ne_nil _ _)
  have hall : (∀ name ∈ s.toList :: rest.map String.toList,
        staysSegment name = true)
      ↔ ∀ name ∈ s :: rest, staysSegment name.toList = true := by
    simp
  rw [hlast, hall] at hiff
  rw [← hiff]
  constructor
  · have hpath : pathText ((s :: rest).map String.toList)
        = '/' :: (s.toList ++ pathText (rest.map String.toList)) := rfl
    exact kept_of_spells hpath
  · rintro ⟨hkept, hcut⟩
    refine ⟨_, (child_of_kept root hkept).1, ?_⟩
    rw [stands_of_kept hkept, hcut, ← List.map_cons, List.map_map]
    rfl

end Address

end SecurityConsole.Url
