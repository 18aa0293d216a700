/-
What a user types in to sign in or to change the password, and what the
server answers to a sign-in. Passwords never show in a text for people.
-/
import SecurityConsole.SessionUser
import SecurityConsole.Resource.Users
import SecurityConsole.Validation.Rules
import SecurityConsole.Text.Quoted

namespace SecurityConsole

open Schema
open Resource (Constraint)

/-- What stands in for a password. -/
def redacted : String := Text.quoted "[REDACTED]"

-- =============================================================== sign-in

/-- A name and a password. -/
structure Credentials where
  username : String
  password : String
  deriving DecidableEq, Repr, Inhabited

namespace Credentials

/-- The shape of credentials. -/
def schema : Schema := fields [need "username" .text, need "password" .text]

/-- The credentials of a value of that shape. -/
def ofValue : schema.Value → Credentials
  | (username, password, ()) => ⟨username, password⟩

/-- The value of credentials. -/
def toValue (c : Credentials) : schema.Value := (c.username, c.password, ())

/-- The members of the request. -/
def members (c : Credentials) : List (String × Json) :=
  schema.fieldTable.encode c.toValue

/-- What credentials must keep. -/
def rules : List (String × Constraint) :=
  [("username", .minLength 1 "username is required"),
   ("password", .minLength 1 "password is required")]

/-- The rules that credentials break. -/
def violations (c : Credentials) : List Violation :=
  Validation.violations rules c.members

/-- Credentials for people to read. -/
def describe (c : Credentials) : String :=
  "LoginRequest \x7b username: " ++ Text.quoted c.username ++
    ", password: " ++ redacted ++ " \x7d"

end Credentials

/-- What the server answers to a sign-in. -/
structure Grant where
  token : String
  user : SessionUser
  deriving DecidableEq, Repr, Inhabited

namespace Grant

/-- The shape of the answer. -/
def schema : Schema :=
  fields [need "token" .text, need "user" SessionUser.schema]

/-- The grant of a value of that shape. -/
def ofValue : schema.Value → Grant
  | (token, user, ()) => ⟨token, SessionUser.ofValue user⟩

/-- A grant as JSON. -/
def toJson (g : Grant) : Json :=
  schema.encode (g.token, g.user.toValue, ())

end Grant

-- ====================================================== password change

/-- The old and the new password. -/
structure PasswordChange where
  old : String
  new : String
  deriving DecidableEq, Repr, Inhabited

namespace PasswordChange

/-- The shape of a change. -/
def schema : Schema :=
  fields [need "old_password" .text, need "new_password" .text]

/-- The value of a change. -/
def toValue (c : PasswordChange) : schema.Value := (c.old, c.new, ())

/-- The members of the request. -/
def members (c : PasswordChange) : List (String × Json) :=
  schema.fieldTable.encode c.toValue

/-- What a change must keep. -/
def rules : List (String × Constraint) :=
  [("old_password", .minLength 1 "old password is required"),
   ("new_password", .minLength 1 "new password is required")]

/-- The rules that a change breaks. -/
def violations (c : PasswordChange) : List Violation :=
  Validation.violations rules c.members

end PasswordChange

-- ========================================================== new accounts

namespace Resource

/-- A name with a capital, as people read the names of a choice. -/
def capitalized (s : String) : String :=
  match s.toList with
  | [] => ""
  | c :: rest => String.ofList (c.toUpper :: rest)

/-- One of some names, with a capital. -/
def describeName (names : List String) (i : Fin names.length) : String :=
  capitalized (names.get i)

/-- An option for people to read. -/
def describeOption {α : Type} (describe : α → String) :
    Option α → String
  | none => "None"
  | some x => "Some(" ++ describe x ++ ")"

/-- A new account for people to read. -/
def describeNewUser : newUser.Value → String
  | (username, _, email, role, status, ()) =>
    "CreateUserRequest \x7b username: " ++ Text.quoted username ++
      ", password: " ++ redacted ++
      ", email: " ++ describeOption Text.quoted email ++
      ", role: " ++ describeName ["admin", "user"] role ++
      ", status: " ++
      describeOption (describeName ["active", "inactive"]) status ++ " \x7d"

end Resource
end SecurityConsole
