/-
Patterns of locations. A pattern is a sequence of segments, fixed ones
and parameters; it matches a path of as many segments that agree with it
at every fixed one. Empty segments do not count, and what follows the
first `?` or `#` of a location is not part of its path.
-/
import SecurityConsole.Text.Cut

namespace SecurityConsole.Route

-- ============================================================== segments

/-- The segments of a path that are not empty. -/
def segments (path : String) : List String :=
  ((Text.cutAt (· = '/') path.toList).filter (!·.isEmpty)).map String.ofList

/-- The part of a location before its query and fragment. -/
def pathOf (location : String) : String :=
  String.ofList (location.toList.takeWhile fun c => c ≠ '?' ∧ c ≠ '#')

-- ============================================================ parameters

/-- Texts that parameters stand for. -/
abbrev Params := List (String × String)

/-- Give a parameter a text; a later one replaces an earlier one. -/
def Params.put (name text : String) : Params → Params
  | [] => [(name, text)]
  | (n, t) :: rest =>
    if n = name then (name, text) :: rest else (n, t) :: put name text rest

/-- The text of a parameter. -/
def Params.get? (ps : Params) (name : String) : Option String :=
  ps.lookup name

-- ============================================================== patterns

/-- One segment of a pattern. -/
inductive Segment where
  | fixed (text : String)
  | param (name : String)
  deriving DecidableEq, Repr, Inhabited

/-- A pattern of paths. -/
abbrev Pattern := List Segment

/-- A segment that begins with a colon is a parameter. -/
def Segment.ofString (s : String) : Segment :=
  match s.toList with
  | ':' :: name => .param (String.ofList name)
  | _ => .fixed s

/-- The pattern that a text with slashes spells. -/
def Pattern.ofString (s : String) : Pattern :=
  (segments s).map Segment.ofString

/-- The names of a pattern's parameters, in order. -/
def Pattern.names : Pattern → List String
  | [] => []
  | .fixed _ :: rest => names rest
  | .param name :: rest => name :: names rest

/-- Match segments against a pattern, with the parameters found so
far. -/
def Pattern.matchFrom? (found : Params) :
    Pattern → List String → Option Params
  | [], [] => some found
  | .fixed text :: rest, s :: ss =>
    if text = s then matchFrom? found rest ss else none
  | .param name :: rest, s :: ss => matchFrom? (found.put name s) rest ss
  | _, _ => none

/-- Match segments against a pattern. -/
def Pattern.match? (p : Pattern) (path : List String) : Option Params :=
  p.matchFrom? [] path

/-- The segments of a pattern with texts for its parameters; `none` if
one has no text. -/
def Pattern.fill? (ps : Params) : Pattern → Option (List String)
  | [] => some []
  | .fixed text :: rest => (fill? ps rest).map (text :: ·)
  | .param name :: rest =>
    match ps.get? name, fill? ps rest with
    | some text, some more => some (text :: more)
    | _, _ => none

end SecurityConsole.Route
