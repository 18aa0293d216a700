/-
Query strings in form encoding: pairs of a name and a text, joined by
`&`, with `=` between the two. A blank is written `+`, letters, digits
and `*-._` as they are, and every other byte as a percent escape.
-/
import SecurityConsole.Url.Percent
import SecurityConsole.Text.Cut

namespace SecurityConsole.Url.Form

open Text (Bytes)

-- =============================================================== writing

/-- The characters that a form writes as they are. -/
def isPlain (c : Char) : Bool :=
  c.isAlphanum || c = '*' || c = '-' || c = '.' || c = '_'

/-- One character of a name or text. -/
def encodeChar (c : Char) : List Char :=
  if c = ' ' then ['+'] else escapeChar isPlain c

/-- A name or text. -/
def encodeChars (s : List Char) : List Char := s.flatMap encodeChar

/-- A pair. -/
def encodePair (p : String × String) : List Char :=
  encodeChars p.1.toList ++ '=' :: encodeChars p.2.toList

/-- Pairs behind what a query already holds. -/
def appendPairs (query : List Char) : List (String × String) → List Char
  | [] => query
  | p :: rest =>
    let separated := if query.isEmpty then query else query ++ ['&']
    appendPairs (separated ++ encodePair p) rest

/-- A query that holds the pairs. -/
def encode (pairs : List (String × String)) : String :=
  String.ofList (appendPairs [] pairs)

-- =============================================================== reading

/-- A name or text: `+` is a blank, and escapes are resolved. -/
def decodeText? (s : List Char) : Option String :=
  Text.decodeString? (unescapeBytes (s.map fun c => if c = '+' then ' ' else c))

/-- A pair: the name ends at the first `=`. -/
def decodePair? (s : List Char) : Option (String × String) :=
  let name := s.takeWhile (· ≠ '=')
  let text := (s.dropWhile (· ≠ '=')).drop 1
  match decodeText? name, decodeText? text with
  | some n, some t => some (n, t)
  | _, _ => none

/-- The pairs of a query; empty parts between two `&` count for
nothing. -/
def decode? (query : String) : Option (List (String × String)) :=
  ((Text.cutAt (· = '&') query.toList).filter (!·.isEmpty)).mapM decodePair?

end SecurityConsole.Url.Form
