/-
What a restart finds of a sign-in that was accepted.

Three places decide by themselves what a token is: a grant may bring any
text, hydration takes the empty one for none, and a request can carry
only what may stand in a header. The first two disagree on just one
text. So a sign-in survives a restart exactly if its token is not empty,
as long as its two writes go well (`login_survives_restart`); a grant
without a token is accepted, and gone behind the restart
(`empty_token_is_forgotten`).
-/
import SecurityConsole.Proofs.Session.Stored
import SecurityConsole.Proofs.SignIn.Failure
import SecurityConsole.Proofs.Transport.Sending

namespace SecurityConsole

open Storage (FileStore FileTree)

-- ================================================================ sign-in

/-- A file that was written to opens as it was written. -/
theorem Storage.keptAt_of_set {store : FileStore} {tree : FileTree}
    {key value : String} (hordered : store.items.Ordered)
    (hok : ((Storage.file store tree).execute (.set key value)).1 = .ok ()) :
    ((Storage.file store tree).execute (.set key value)).2.KeptAt
      store.path :=
  ⟨_, _, rfl, FileStore.openAt_of_set hordered hok⟩

namespace Session

variable {s : Session} {token : String} {user : SessionUser}

/-- Signing in with an empty token is not remembered. -/
theorem hydrate_of_empty_token
    (hok : s.storage.WentWell (signIn "" user)) :
    (hydrate (s.establish "" user).storage).identity = nobody := by
  obtain ⟨htoken, huser, -⟩ := hok
  have hstored : (s.establish "" user).storage.get? tokenKey = some "" := by
    show ((s.storage.set tokenKey "").2.set userKey _).2.get? _ = _
    rw [Storage.get?_set_of_ne userKey_ne_tokenKey.symm]
    exact Storage.get?_set_self htoken
  have hkept : (s.establish "" user).storage.get? userKey
      = some user.toText := Storage.get?_set_self huser
  rw [hydrate_of_orphan (by rw [hstored]; rfl) hkept]

/-- The file that a sign-in was written to opens as it was written. -/
theorem keptAt_establish {store : FileStore} {tree : FileTree}
    (hfile : s.storage = .file store tree) (hordered : store.items.Ordered)
    (hok : s.storage.WentWell (signIn token user)) :
    (s.establish token user).storage.KeptAt store.path := by
  obtain ⟨between, tree', hfirst, hpath, hitems⟩ :
      ∃ between tree',
        (s.storage.execute (.set tokenKey token)).2 = .file between tree'
          ∧ between.path = store.path
          ∧ between.items = store.items.put tokenKey token := by
    rw [hfile]
    exact ⟨_, _, rfl, rfl, rfl⟩
  have hsecond : (s.establish token user).storage
      = ((s.storage.execute (.set tokenKey token)).2.execute
          (.set userKey user.toText)).2 := rfl
  have hwritten : ((s.storage.execute (.set tokenKey token)).2.execute
      (.set userKey user.toText)).1 = .ok () := hok.2.1
  rw [hfirst] at hsecond hwritten
  rw [hsecond, ← hpath]
  refine Storage.keptAt_of_set ?_ hwritten
  rw [hitems]
  exact hordered.put tokenKey token

end Session

namespace Console

variable {σ : Type} {server : Server σ} {s : σ} {c : Console}
  {creds : Credentials} {grant : Grant}

/-- A sign-in that is accepted does one thing to the session. -/
theorem login_of_granted
    (h : ((login creds).run server s c).1 = .ok grant) :
    ((login creds).run server s c).2.2.session
      = c.session.establish grant.token grant.user := by
  cases hvalid : creds.violations with
  | cons v vs =>
      rw [login_of_invalid hvalid] at h
      cases h
  | nil =>
      rw [login_of_valid hvalid] at h ⊢
      cases hr : c.request? (loginCall creds) with
      | none =>
          rw [Job.run_call_of_none hr, settle_lost] at h
          cases h
      | some request =>
          rw [Job.run_call_of_some hr] at h ⊢
          cases hv : Verdict.ofReply (loginCall creds) (server s request).1
              with
          | answered value =>
              rw [settle_of_answered c hv] at h ⊢
              cases h
              rfl
          | failed e text =>
              rw [settle_of_failed c hv] at h
              cases h
          | refused m =>
              cases ht : request.token with
              | none =>
                  rw [ht, settle_of_refused_bare c hv] at h
                  cases h
              | some token =>
                  rw [ht, settle_of_refused_token c hv] at h
                  cases h

/-- A sign-in that is accepted, and written down, is found by a console
that is started again on the same storage, or on its file: token and user
are those of the grant, and every request carries that token. Only a grant
whose token is empty is not found again. -/
theorem login_survives_restart
    (hgranted : ((login creds).run server s c).1 = .ok grant)
    (hwritten : c.session.storage.WentWell
      (Session.signIn grant.token grant.user)) :
    let d := ((login creds).run server s c).2.2
    d.session.token? = some grant.token
      ∧ d.session.user? = some grant.user
      -- the file of the storage, if there is one, opens as the same store
      ∧ (∀ store tree, c.session.storage = .file store tree →
        store.items.Ordered → d.session.storage.KeptAt store.path)
      ∧ ∀ baseUrl,
        let again := Console.start baseUrl d.session.storage
        (again.session.isAuthenticated = true ↔ grant.token ≠ "")
          ∧ (grant.token ≠ "" →
            again.session.token? = some grant.token
              ∧ again.session.user? = some grant.user
              ∧ again.session.storage = d.session.storage
              -- a request is sent whenever it can be written, and with
              -- this token
              ∧ ∀ call,
                (∀ request, again.request? call = some request →
                  request.token.map bearer = some ("Bearer " ++ grant.token))
                ∧ ((again.request? call).isSome = true
                  ↔ (again.address? call).isSome = true
                    ∧ Http.legalHeader ("Bearer " ++ grant.token)
                      = true)) := by
  intro d
  have hsession : d.session
      = c.session.establish grant.token grant.user :=
    login_of_granted hgranted
  rw [hsession]
  refine ⟨rfl, rfl, fun store tree hfile hordered =>
    Session.keptAt_establish hfile hordered hwritten, fun baseUrl => ?_⟩
  intro again
  -- an empty token is written, but not taken for one when it is read
  by_cases hempty : grant.token = ""
  · have hnobody : again.session.identity = Session.nobody := by
      show (Session.hydrate _).identity = _
      rw [hempty] at hwritten ⊢
      exact Session.hydrate_of_empty_token hwritten
    have hout : again.session.isAuthenticated = false := by
      unfold Session.isAuthenticated
      rw [hnobody]
      rfl
    rw [hout]
    exact ⟨⟨nofun, fun hne => absurd hempty hne⟩,
      fun hne => absurd hempty hne⟩
  · have hfound : again.session
        = c.session.establish grant.token grant.user :=
      Session.remembered_establish hempty hwritten
    have htoken : again.session.token? = some grant.token := by
      rw [hfound]
      rfl
    refine ⟨?_, fun _ => ⟨htoken, ?_, ?_, fun call => ⟨?_, ?_⟩⟩⟩
    · rw [hfound]
      exact ⟨fun _ => hempty, fun _ => rfl⟩
    · rw [hfound]
      rfl
    · rw [hfound]
    · intro request hr
      rw [request?_token hr, htoken]
      rfl
    · rw [request?_isSome_iff, htoken]
      rfl

/-- A server that grants a token to everybody, and takes them for alice. -/
def granting (token : String) : Server Unit := fun s _ =>
  (.response 200 (Text.encode ("\x7b\"code\":0,\"data\":\x7b\"token\":\""
    ++ token ++ "\",\"user\":\x7b\"username\":\"alice\","
    ++ "\"role\":\"admin\"\x7d\x7d\x7d")), s)

theorem eq_ok_of_toOption {r : Except ApiError Grant}
    (h : r.toOption = some grant) : r = .ok grant := by
  cases r with
  | ok other => exact congrArg Except.ok (Option.some.inj h)
  | error e => cases h

/-- An empty token is granted, and nobody is signed in behind a restart. -/
theorem empty_token_is_forgotten :
    let first := Console.start "http://localhost" (.memory [])
    let d := (login ⟨"alice", "secret"⟩).run (granting "") () first
    d.1 = .ok ⟨"", ⟨"alice", "admin"⟩⟩
      ∧ d.2.2.session.isAuthenticated = true
      ∧ (Console.start "http://localhost"
        d.2.2.session.storage).session.isAuthenticated = false := by
  intro first d
  have hgranted : d.1 = .ok ⟨"", ⟨"alice", "admin"⟩⟩ :=
    eq_ok_of_toOption (by decide +kernel)
  rw [login_of_granted hgranted]
  exact ⟨hgranted, rfl, by decide +kernel⟩

/-- A token with an accent, and a storage whose file is still to be
made. -/
theorem accented_token_survives_restart :
    let first := Console.start "http://localhost" Session.unwritten
    let d := (login ⟨"alice", "secret"⟩).run (granting "clé 1") () first
    d.1 = .ok ⟨"clé 1", ⟨"alice", "admin"⟩⟩
      ∧ first.session.storage.WentWell
        (Session.signIn "clé 1" ⟨"alice", "admin"⟩)
      ∧ d.2.2.session.storage.KeptAt ["session.json"]
      ∧ (Console.start "http://localhost"
        d.2.2.session.storage).session.token? = some "clé 1" := by
  have hgranted : ((login ⟨"alice", "secret"⟩).run (granting "clé 1") ()
      (Console.start "http://localhost" Session.unwritten)).1
      = .ok ⟨"clé 1", ⟨"alice", "admin"⟩⟩ :=
    eq_ok_of_toOption (by decide +kernel)
  have hwritten : (Console.start "http://localhost"
      Session.unwritten).session.storage.WentWell
        (Session.signIn "clé 1" ⟨"alice", "admin"⟩) := by decide +kernel
  obtain ⟨-, -, hkept, hagain⟩ := login_survives_restart hgranted hwritten
  have hnamed : "clé 1" ≠ "" := by decide
  exact ⟨hgranted, hwritten, hkept _ _ rfl List.Pairwise.nil,
    ((hagain _).2 hnamed).1⟩

end Console
end SecurityConsole
