/-
Who is signed in, as the server says and the session remembers.
-/
import SecurityConsole.Schema.Reader
import SecurityConsole.Json.Printer
import SecurityConsole.Text.Uppercase

namespace SecurityConsole

open Schema

/-- The user of a session. -/
structure SessionUser where
  username : String
  role : String
  deriving DecidableEq, Repr, Inhabited

namespace SessionUser

/-- The shape of a user. -/
def schema : Schema := fields [need "username" .text, need "role" .text]

/-- The user of a value of that shape. -/
def ofValue : schema.Value → SessionUser
  | (username, role, ()) => ⟨username, role⟩

/-- The value of a user. -/
def toValue (u : SessionUser) : schema.Value := (u.username, u.role, ())

/-- A user as JSON. -/
def toJson (u : SessionUser) : Json := schema.encode u.toValue

/-- A user as it is stored. -/
def toText (u : SessionUser) : String := u.toJson.print

/-- Read a stored user. -/
def ofText? (s : String) : Option SessionUser :=
  (schema.ofString? s).map ofValue

/-- Administrators have the role of that name, in small letters. -/
def isAdmin (u : SessionUser) : Bool := u.role = "admin"

/-- The first two letters of the name in upper case, for a picture. -/
def initials (u : SessionUser) : String :=
  let two := u.username.toList.take 2
  if two.isEmpty then "U" else Text.uppercase (String.ofList two)

end SessionUser
end SecurityConsole
