/-
Accounts of the console.
-/
import SecurityConsole.Resource.Severity
import SecurityConsole.Resource.Endpoint

namespace SecurityConsole.Resource

open Schema

/-- The role of an account. -/
def userRole : Schema := .oneOf ["admin", "user"]

/-- Whether an account may sign in. -/
def userStatus : Schema := .oneOf ["active", "inactive"]

/-- An account. -/
def user : Schema :=
  fields
    [need "id" i64, need "username" .text, fill "email" .text,
     need "role" userRole, need "status" userStatus,
     maybe "last_login" .text, need "created_at" .text,
     need "updated_at" .text]

/-- What a new account is made from. -/
def newUser : Schema :=
  fields
    [need "username" .text, need "password" .text, ask "email" .text,
     need "role" userRole, ask "status" userStatus]

/-- What a new account must keep before it is sent. -/
def newUserRules : List (String × Constraint) :=
  [("username", .minLength 1 "username is required"),
   ("password", .minLength 6 "password must be at least 6 characters"),
   ("email", .email)]

/-- The path of an account. -/
def userPath : Template := .slot "/users/" "id" i64 (.tail "")

/-- The endpoint that makes accounts. -/
def createUser : Endpoint :=
  { group := "users", action := "create", method := .post
    path := .tail "/users"
    body := .inline newUser.fieldTable
    rules := newUserRules, answer := .value user }

/-- The endpoint that deletes accounts. -/
def deleteUser : Endpoint :=
  { group := "users", action := "delete", method := .delete
    path := userPath }

/-- The endpoints of accounts. -/
def users : List Endpoint :=
  [{ group := "users", action := "list", method := .get
     path := .tail "/users"
     query := Fields.ofList
       [ask "page" u32, ask "page_size" u32, ask "username" .text,
        ask "role" userRole, ask "status" userStatus]
     answer := .value (page user) },
   { group := "users", action := "get", method := .get
     path := userPath, answer := .value user },
   createUser,
   { group := "users", action := "update", method := .put
     path := userPath
     body := .inline (Fields.ofList
       [ask "password" .text, ask "email" .text, ask "role" userRole,
        ask "status" userStatus])
     answer := .value user },
   deleteUser]

end SecurityConsole.Resource
