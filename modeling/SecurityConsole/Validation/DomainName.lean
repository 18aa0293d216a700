/-
Domain names written with letters of any script, brought into the form
of ASCII letters, digits and hyphens that the name system knows: a label
with other letters becomes `xn--` and its letters in the bootstring
encoding of RFC 3492.
-/
import SecurityConsole.Text.Cut
import SecurityConsole.Text.Invisible
import SecurityConsole.Text.Combining

namespace SecurityConsole.Validation

open Text

-- ============================================================ bootstring

/-- A digit of base thirty-six: letters, then numerals. -/
def bootDigit (n : Nat) : Char :=
  if n < 26 then Char.ofNat ('a'.toNat + n)
  else Char.ofNat ('0'.toNat + (n - 26))

/-- The threshold of a digit place under a bias. -/
def bootThreshold (bias k : Nat) : Nat := max 1 (min 26 (k - bias))

/-- A number in digits of growing weight; the first argument bounds
their count. -/
def bootNumber (bias : Nat) : Nat → Nat → Nat → List Char
  | 0, _, q => [bootDigit q]
  | fuel + 1, k, q =>
    let t := bootThreshold bias k
    if q < t then [bootDigit q]
    else
      bootDigit (t + (q - t) % (36 - t)) ::
        bootNumber bias fuel (k + 36) ((q - t) / (36 - t))

/-- Scale a delta down until it fits a digit; the first argument bounds
the steps. -/
def bootScale : Nat → Nat → Nat → Nat
  | 0, k, d => k + 36 * d / (d + 38)
  | fuel + 1, k, d =>
    if 455 < d then bootScale fuel (k + 36) (d / 35)
    else k + 36 * d / (d + 38)

/-- The bias behind a number. -/
def bootBias (delta count : Nat) (isFirst : Bool) : Nat :=
  let d := if isFirst then delta / 700 else delta / 2
  bootScale 64 0 (d + d / count)

/-- The encoder's state. -/
structure Bootstring where
  delta : Nat
  bias : Nat
  handled : Nat
  isFirst : Bool
  written : List Char

/-- One letter of the label, while the letter of number `n` is placed. -/
def Bootstring.place (n : Nat) (st : Bootstring) (c : Nat) : Bootstring :=
  if c < n then { st with delta := st.delta + 1 }
  else if c = n then
    { delta := 0
      bias := bootBias st.delta (st.handled + 1) st.isFirst
      handled := st.handled + 1
      isFirst := false
      written := st.written ++ bootNumber st.bias 64 36 st.delta }
  else st

/-- Place every occurrence of the next letter in the order of numbers. -/
def Bootstring.next (label : List Nat) (previous : Nat) (st : Bootstring)
    (n : Nat) : Bootstring :=
  let st := { st with delta := st.delta + (n - previous) * (st.handled + 1) }
  let st := label.foldl (Bootstring.place n) st
  { st with delta := st.delta + 1 }

/-- Place the given letters, in rising order. -/
def Bootstring.run (label : List Nat) (previous : Nat) (st : Bootstring) :
    List Nat → Bootstring
  | [] => st
  | n :: rest => (st.next label previous n).run label (n + 1) rest

/-- A label in the encoding. -/
def bootstring (label : List Char) : List Char :=
  let plain := label.filter fun c => c.toNat < 128
  let others := (label.map Char.toNat).filter fun n => 128 ≤ n
  let start : Bootstring :=
    { delta := 0, bias := 72, handled := plain.length, isFirst := true
      written := if plain.isEmpty then [] else plain ++ ['-'] }
  let rising := (others.mergeSort (· ≤ ·)).eraseDups
  (start.run (label.map Char.toNat) 128 rising).written

-- ================================================================ labels

/-- Whether a character is dropped from a domain name: marks that only
choose between forms of a letter or say where a word may break. -/
def isIgnored (c : Char) : Bool :=
  let n := c.toNat
  n ∈ [0xad, 0x34f, 0x180b, 0x180c, 0x180d, 0x180f, 0x200b, 0x2060,
      0x2064, 0xfeff] ||
    (0xfe00 ≤ n && n ≤ 0xfe0f) || (0xe0100 ≤ n && n ≤ 0xe01ef)

/-- Whether a character joins its neighbours or keeps them apart, which
some scripts need. -/
def isJoiner (c : Char) : Bool := c.toNat = 0x200c || c.toNat = 0x200d

/-- A character as a domain name has it: wide forms are narrowed, full
stops of other scripts and leaders are points, capitals of ASCII are
small. -/
def domainChars (c : Char) : List Char :=
  let n := c.toNat
  if n ∈ [0x3002, 0xff0e, 0xff61] then ['.']
  else if 0x2024 ≤ n ∧ n ≤ 0x2026 then List.replicate (n - 0x2023) '.'
  else if 0xff01 ≤ n ∧ n ≤ 0xff5e then [(Char.ofNat (n - 0xfee0)).toLower]
  else [c.toLower]

/-- A label in ASCII. A label of other letters may not begin with a mark
that joins the letter before it. -/
def asciiLabel? (label : List Char) : Option (List Char) :=
  if label.all fun c => c.toNat < 128 then some label
  else
    match label with
    | [] => some []
    | c :: _ =>
      if isCombining c then none
      else some (['x', 'n', '-', '-'] ++ bootstring label)

/-- Labels with points between them. -/
def joinLabels : List (List Char) → List Char
  | [] => []
  | [l] => l
  | l :: rest => l ++ '.' :: joinLabels rest

/-- A domain name in ASCII; `none` if it has characters that no domain
name has.

This is the part of the mapping of domain names that addresses of mail
meet: wide forms, other full stops and capitals of ASCII are mapped,
ignored characters dropped, and joiners let through. The full table of
mappings, the normal form behind it and the rule for names written from
right to left are left out, so a name that only these change is read
differently here. -/
def asciiDomain? (s : List Char) : Option (List Char) :=
  let s := (s.filter (!isIgnored ·)).flatMap domainChars
  if s.any fun c => isInvisible c && !isJoiner c then none
  else ((cutAt (· = '.') s).mapM asciiLabel?).map joinLabels

end SecurityConsole.Validation
