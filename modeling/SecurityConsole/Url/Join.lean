/-
Joining the parts of an address as text: the address of a server, the
path that all its endpoints share, and the path of one of them. Between
two parts there is one slash, however many the parts bring.
-/

namespace SecurityConsole.Url

/-- A text without the slashes at its end. -/
def trimEnd (s : List Char) : List Char :=
  (s.reverse.dropWhile (· = '/')).reverse

/-- A text without the slashes at its beginning. -/
def trimStart (s : List Char) : List Char := s.dropWhile (· = '/')

/-- The address that the paths of endpoints are joined to. It never ends
in a slash. -/
def joinBase (server shared : String) : String :=
  let server := trimEnd server.toList
  let shared := trimEnd (trimStart shared.toList)
  String.ofList (trimEnd (server ++ '/' :: shared))

/-- The address of an endpoint. -/
def joinPath (base path : String) : String :=
  String.ofList (base.toList ++ '/' :: trimStart path.toList)

end SecurityConsole.Url
