/-
Signing in and out, and checking whether a token is still good.
-/
import SecurityConsole.Console.Job
import SecurityConsole.Resource.System

namespace SecurityConsole.Console

open Resource

-- ================================================================== calls

/-- The call that trades credentials for a token. -/
def loginCall (c : Credentials) : Call :=
  loginEndpoint.call ⟨(), (), c.toValue⟩

/-- The call that revokes the token it is sent with. -/
def logoutCall : Call := logoutEndpoint.call ⟨(), (), ()⟩

/-- The call that tells whose the token is that it is sent with. -/
def currentUserCall : Call := currentUserEndpoint.call ⟨(), (), ()⟩

/-- The call that changes a password. -/
def passwordCall (c : PasswordChange) : Call :=
  passwordEndpoint.call ⟨(), (), c.toValue⟩

-- ================================================================== jobs

/-- Sign in. Only a grant changes the session. -/
def login (c : Credentials) : Job (Except ApiError Grant) :=
  match c.violations with
  | [] => do
    match ← Job.call (loginCall c) with
    | .ok value =>
      let grant := Grant.ofValue value
      let _ ← Job.perform (.establish grant.token grant.user)
      return .ok grant
    | .error e => return .error e
  | violations => .done (.error (.validation violations))

/-- Sign out here, whatever the server says to it. -/
def logout : Job Unit := do
  let _ ← Job.call logoutCall
  let _ ← Job.perform .clear

/-- Ask the server whose the token of the session is. The user replaces
the one remembered; a token that the server does not vouch for is given
up. Either counts only if the session still holds that token. -/
def revalidate : Job Unit := do
  match ← Job.ask fun c => c.session.token? with
  | none => return
  | some token =>
    match ← Job.call currentUserCall with
    | .ok value =>
      let _ ← Job.perform (.refreshUser token (SessionUser.ofValue value))
    | .error _ =>
      let _ ← Job.perform (.expire token)

/-- Change the password. -/
def changePassword (c : PasswordChange) : Job (Except ApiError Unit) :=
  match c.violations with
  | [] => Job.call (passwordCall c)
  | violations => .done (.error (.validation violations))

/-- Ask the server whose the token is. -/
def currentUser : Job (Except ApiError SessionUser) := do
  return (← Job.call currentUserCall).map SessionUser.ofValue

end SecurityConsole.Console
