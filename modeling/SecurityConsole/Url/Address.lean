/-
Addresses of requests: reading a URL of the web and writing the target
that stands on the request line.

Reading follows the URL standard for `http` and `https`. Blanks and
control characters at the ends and line ends and tabs anywhere are
dropped. A backslash is a slash. The path is cut into segments, of which
`.` and `..` move through the path instead of naming something, also
where their points are escaped. What a path or a query may not hold is
escaped, and the fragment is not part of a request.
-/
import SecurityConsole.Url.Form

namespace SecurityConsole.Url

/-- An address that a request can be sent to. -/
structure Address where
  secure : Bool
  host : String
  port : Nat
  /-- The segments of the path, escaped; `[""]` is the root. -/
  segments : List String
  /-- The query, escaped, if there is one. -/
  query : Option String
  deriving DecidableEq, Repr, Inhabited

-- ============================================================= character sets

/-- Characters that are never written in an address as they are. -/
def isControl (c : Char) : Bool := c.toNat < 0x20 || 0x7f ≤ c.toNat

/-- The characters that a path holds as they are. -/
def pathPlain (c : Char) : Bool :=
  !(isControl c ||
    c ∈ [' ', '"', '#', '<', '>', '?', '\x60', '\x7b', '\x7d'])

/-- The characters that a query holds as they are. -/
def queryPlain (c : Char) : Bool :=
  !(isControl c || c ∈ [' ', '"', '#', '<', '>', '\''])

/-- The characters that end a segment. -/
def isSlash (c : Char) : Bool := c = '/' || c = '\\'

/-- The characters that no host name has. -/
def forbiddenInHost (c : Char) : Bool :=
  isControl c ||
    c ∈ [' ', '#', '%', '/', ':', '<', '>', '?', '@', '[', '\\', ']',
      '^', '|']

-- ================================================================== paths

/-- Whether a segment stands for the directory it is in. -/
def isHere (s : List Char) : Bool :=
  s.map Char.toLower ∈ [['.'], ['%', '2', 'e']]

/-- Whether a segment stands for the directory above. -/
def isAbove (s : List Char) : Bool :=
  s.map Char.toLower ∈
    [['.', '.'], ['.', '%', '2', 'e'], ['%', '2', 'e', '.'],
     ['%', '2', 'e', '%', '2', 'e']]

/-- Walk along segments, keeping those passed so far, last first. A last
segment that only moves leaves an empty one behind. -/
def walk (passed : List (List Char)) : List (List Char) → List (List Char)
  | [] => passed.reverse
  | s :: rest =>
    if isAbove s then
      if rest.isEmpty then ([] :: passed.tail).reverse
      else walk passed.tail rest
    else if isHere s then
      if rest.isEmpty then ([] :: passed).reverse else walk passed rest
    else walk (escapeChars pathPlain s :: passed) rest

/-- The segments of a path. The slash it begins with names nothing. -/
def pathSegments (path : List Char) : List (List Char) :=
  match path with
  | [] => walk [] [[]]
  | c :: rest =>
    walk [] (Text.cutAt isSlash (if isSlash c then rest else c :: rest))

-- ============================================================== authority

/-- The number that a port's digits spell; `none` unless they are digits
and the number is a port. -/
def portNumber? (ds : List Char) : Option Nat :=
  if ds.all Char.isDigit then
    let n := ds.foldl (fun n c => 10 * n + (c.toNat - '0'.toNat)) 0
    if n < 65536 then some n else none
  else none

/-- The host and port of an authority; the default port stands in for an
empty one. -/
def hostPort? (default : Nat) (s : List Char) : Option (List Char × Nat) :=
  let (host, behind) :=
    if s.head? = some '[' then
      (s.takeWhile (· ≠ ']') ++ [']'], (s.dropWhile (· ≠ ']')).drop 1)
    else (s.takeWhile (· ≠ ':'), s.dropWhile (· ≠ ':'))
  let named :=
    if s.head? = some '[' then ']' ∈ s
    else !host.isEmpty && !host.any forbiddenInHost
  if named then
    match behind with
    | [] => some (host.map Char.toLower, default)
    | [':'] => some (host.map Char.toLower, default)
    | ':' :: ds => (portNumber? ds).map (host.map Char.toLower, ·)
    | _ => none
  else none

/-- What stands behind the last `@` of an authority. -/
def behindUser (s : List Char) : List Char :=
  (s.reverse.takeWhile (· ≠ '@')).reverse

-- ================================================================ parsing

/-- Whether a character is dropped at the ends of an address. -/
def isPadding (c : Char) : Bool := c.toNat ≤ 0x20

/-- The text of an address without what is dropped from it. -/
def cleaned (s : List Char) : List Char :=
  ((s.dropWhile isPadding).reverse.dropWhile isPadding).reverse.filter
    fun c => c ≠ '\t' ∧ c ≠ '\n' ∧ c ≠ '\r'

/-- Where the path ends. -/
def endsPath (c : Char) : Bool := c = '?' || c = '#'

/-- The query and the fragment behind a path. -/
def queryOf : List Char → Option (List Char)
  | '?' :: rest => some (escapeChars queryPlain (rest.takeWhile (· ≠ '#')))
  | _ => none

/-- The address behind the scheme. -/
def afterScheme? (secure : Bool) (s : List Char) : Option Address :=
  let s := s.dropWhile isSlash
  let authority := s.takeWhile fun c => !(isSlash c || endsPath c)
  let rest := s.dropWhile fun c => !(isSlash c || endsPath c)
  let path := rest.takeWhile fun c => !endsPath c
  let behind := rest.dropWhile fun c => !endsPath c
  (hostPort? (if secure then 443 else 80) (behindUser authority)).map
    fun (host, port) =>
      { secure, host := String.ofList host, port
        segments := (pathSegments path).map String.ofList
        query := (queryOf behind).map String.ofList }

/-- Read an address of the web; `none` if the text is none.

Hosts are read as ASCII only: a host with letters beyond ASCII or with
escapes is refused, where a reader of the whole standard would map and
decode it. A host of numbers or in brackets is lowered and kept as it
stands, neither checked nor brought into one form. The host is no part
of a target, so nothing said about targets turns on this. -/
def Address.parse? (s : String) : Option Address :=
  let s := cleaned s.toList
  let scheme := (s.takeWhile (· ≠ ':')).map Char.toLower
  let behind := (s.dropWhile (· ≠ ':')).drop 1
  if ':' ∈ s then
    if scheme = ['h', 't', 't', 'p'] then afterScheme? false behind
    else if scheme = ['h', 't', 't', 'p', 's'] then afterScheme? true behind
    else none
  else none

-- ================================================================ targets

namespace Address

/-- The path on the request line. -/
def path (a : Address) : String :=
  a.segments.foldl (fun acc s => acc ++ "/" ++ s) ""

/-- What stands on the request line. -/
def target (a : Address) : String :=
  match a.query with
  | some q => a.path ++ "?" ++ q
  | none => a.path

/-- The address with pairs added to its query. A query that stays empty
disappears. -/
def withPairs (a : Address) (pairs : List (String × String)) : Address :=
  let query := Form.appendPairs ((a.query.getD "").toList) pairs
  { a with query := if query.isEmpty then none else some (String.ofList query) }

end Address
end SecurityConsole.Url
