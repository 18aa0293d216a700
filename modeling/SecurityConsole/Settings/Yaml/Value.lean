/-
The value of a scalar in YAML text. A plain scalar without a tag is a
truth value, a number or nothing if it is written as one, and else a
text; a tag says which of them it has to be.
-/
import SecurityConsole.Settings.Tree
import SecurityConsole.Text.Hex

namespace SecurityConsole.Settings.Yaml

open Number (Double)

-- ================================================================ numbers

/-- The integer that digits of a base spell, if it fits in sixty-four
bits. -/
def integer? (negative : Bool) (base : Nat) (ds : List Char) : Option Int :=
  match ds with
  | [] => none
  | _ =>
    let n? := ds.foldlM (fun n c =>
      match Text.Hex.value? c with
      | some d => if d < base then some (base * n + d) else none
      | none => none) 0
    n?.bind fun n =>
      let i : Int := if negative then -(n : Int) else n
      if -(Number.signedBound : Int) ≤ i ∧ i < Number.signedBound then some i
      else none

/-- The integer that a text spells. -/
def integerText? : List Char → Option Int
  | '-' :: ds => integer? true 10 ds
  | '+' :: ds => integer? false 10 ds
  | '0' :: 'x' :: ds => integer? false 16 ds
  | '0' :: 'o' :: ds => integer? false 8 ds
  | ds => integer? false 10 ds

/-- The exponent behind the digits of a number. -/
def exponent? : List Char → Option Int
  | [] => some 0
  | c :: rest =>
    if c = 'e' ∨ c = 'E' then
      let (negative, ds) : Bool × List Char := match rest with
        | '-' :: ds => (true, ds)
        | '+' :: ds => (false, ds)
        | ds => (false, ds)
      if ds ≠ [] ∧ ds.all Char.isDigit then
        let n := ds.foldl (fun n c => 10 * n + (c.toNat - '0'.toNat)) 0
        some (if negative then -(n : Int) else n)
      else none
    else none

/-- The number with a fraction or an exponent that a text spells. -/
def realText? (s : List Char) : Option Double :=
  let (negative, s) : Bool × List Char := match s with
    | '-' :: s => (true, s)
    | '+' :: s => (false, s)
    | s => (false, s)
  let whole := s.takeWhile Char.isDigit
  let s := s.dropWhile Char.isDigit
  let (fraction, s) : List Char × List Char := match s with
    | '.' :: s => (s.takeWhile Char.isDigit, s.dropWhile Char.isDigit)
    | s => ([], s)
  if whole.isEmpty ∧ fraction.isEmpty then none
  else
    (exponent? s).map fun e =>
      let digits := (whole ++ fraction).foldl
        (fun n c => 10 * n + (c.toNat - '0'.toNat)) 0
      Double.ofDecimal negative digits (e - fraction.length)

/-- The texts of infinities and of what is no number; no setting can be
read from them. -/
def unreadable : List String :=
  [".inf", ".Inf", ".INF", "+.inf", "+.Inf", "+.INF", "-.inf", "-.Inf",
   "-.INF", ".nan", ".NaN", ".NAN"]

/-- The value of a plain scalar. -/
def scalar? (cs : List Char) : Option Tree :=
  let s := String.ofList cs
  if s = "~" ∨ s = "null" then some .null
  else if s = "true" then some (.bool true)
  else if s = "false" then some (.bool false)
  else if s ∈ unreadable then none
  else
    match integerText? cs, realText? cs with
    | some n, _ => some (.int n)
    | none, some x => some (.real x)
    | none, none => some (.text s)

-- =================================================================== tags

/-- What a tag says about a scalar. -/
inductive Tag where
  /-- It is of a kind that every reader knows, such as `int`. -/
  | core (kind : String)
  /-- It is of a kind that only its writer knows. -/
  | custom
  deriving DecidableEq, Repr, Inhabited

/-- The tag that the characters behind an exclamation mark spell; `none`
if they use a name for other tags, since there is none. -/
def Tag.ofChars? : List Char → Option Tag
  | '!' :: kind =>
    if '!' ∈ kind then none else some (.core (String.ofList kind))
  | '<' :: _ => some .custom
  | name => if '!' ∈ name then none else some .custom

/-- The value of a plain scalar with a tag; a scalar that is not of the
tag's kind is nothing. -/
def Tag.value? (cs : List Char) : Tag → Option Tree
  | .custom => some (.text (String.ofList cs))
  | .core kind =>
    let s := String.ofList cs
    if kind = "bool" then
      some (if s = "true" then .bool true
        else if s = "false" then .bool false
        else .null)
    else if kind = "int" then
      let n? := match cs with
        | '-' :: ds => integer? true 10 ds
        | '+' :: ds => integer? false 10 ds
        | ds => integer? false 10 ds
      some (n?.elim .null .int)
    else if kind = "float" then
      if s ∈ unreadable then none else some ((realText? cs).elim .null .real)
    else if kind = "null" then some .null
    else some (.text s)

/-- The value of a plain scalar, with a tag or without. -/
def plainValue? (tag : Option Tag) (cs : List Char) : Option Tree :=
  match tag with
  | none => scalar? cs
  | some tag => tag.value? cs

end SecurityConsole.Settings.Yaml
