/-
The session: the token and the user in memory, and their copies in
storage. The two are written and cleared together. What the storage
answers never changes what the session holds.

Changes that come from an old request name the token they were made for,
and do nothing once the session holds another one.
-/
import SecurityConsole.Storage.Basic
import SecurityConsole.SessionUser

namespace SecurityConsole

/-- The token and the user in memory. -/
structure Identity where
  token : Option String
  user : Option SessionUser
  deriving DecidableEq, Repr, Inhabited

/-- A session: who is signed in, and where that is kept. -/
structure Session where
  identity : Identity
  storage : Storage

namespace Session

instance : Inhabited Session := ⟨⟨⟨none, none⟩, default⟩⟩

/-- The key of the token. -/
def tokenKey : String := "mxcsec_token"

/-- The key of the user. -/
def userKey : String := "mxcsec_user"

-- =============================================================== reading

/-- Whether somebody is signed in. -/
def isAuthenticated (s : Session) : Bool := s.identity.token.isSome

/-- The token held. -/
def token? (s : Session) : Option String := s.identity.token

/-- The user held. -/
def user? (s : Session) : Option SessionUser := s.identity.user

/-- Whether the session holds just this token. -/
def holds (s : Session) (token : String) : Bool :=
  s.identity.token = some token

-- ============================================================= hydration

/-- The session that a storage remembers. An empty token counts as none.
A user that cannot be read is left where it is, a user without a token
is removed. -/
def hydrate (storage : Storage) : Session :=
  match (storage.get? tokenKey).filter (· ≠ "") with
  | some token =>
    ⟨⟨some token, (storage.get? userKey).bind SessionUser.ofText?⟩, storage⟩
  | none =>
    match storage.get? userKey with
    | some _ => ⟨⟨none, none⟩, (storage.remove userKey).2⟩
    | none => ⟨⟨none, none⟩, storage⟩

-- =============================================================== changes

/-- Sign in with a token that was just issued. -/
def establish (s : Session) (token : String) (user : SessionUser) :
    Session :=
  let storage := (s.storage.set tokenKey token).2
  let storage := (storage.set userKey user.toText).2
  ⟨⟨some token, some user⟩, storage⟩

/-- Replace the user, provided that the session still holds the token;
says whether it did. -/
def refreshUser (s : Session) (token : String) (user : SessionUser) :
    Bool × Session :=
  if s.holds token then
    (true, ⟨{ s.identity with user := some user },
      (s.storage.set userKey user.toText).2⟩)
  else (false, s)

/-- Forget token and user, in memory and in storage. -/
def teardown (s : Session) : Session :=
  let storage := (s.storage.remove tokenKey).2
  let storage := (storage.remove userKey).2
  ⟨⟨none, none⟩, storage⟩

/-- Sign out; says whether there was anything to forget. -/
def clear (s : Session) : Bool × Session :=
  (s.identity.token.isSome || s.identity.user.isSome, s.teardown)

/-- End the session of a token, provided that it is still held; says
whether it was. -/
def expire (s : Session) (token : String) : Bool × Session :=
  if s.holds token then (true, s.teardown) else (false, s)

end Session
end SecurityConsole
