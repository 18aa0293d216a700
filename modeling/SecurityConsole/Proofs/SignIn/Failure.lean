/-
What a failed sign-in leaves behind.

The request of a sign-in carries the token that is held, like any other.
So a server that refuses the credentials of somebody who is signed in
already refuses that token with them, and the session ends
(`login_of_refused`). This is the one failure that touches the session:
every other one leaves token, user and both items as they were
(`login_of_not_refused`).
-/
import SecurityConsole.Proofs.Session.Changes
import SecurityConsole.Proofs.SignIn.Rules

namespace SecurityConsole

-- ============================================================ single calls

/-- A job that sends one call runs on with the server's reply to it. -/
theorem Job.run_call_of_some {σ α : Type} {server : Server σ} {s : σ}
    {c : Console} {call : Call} {go : Answers [call] → Job α}
    {request : Request} (h : c.request? call = some request) :
    (Job.calls [call] go).run server s c
      = (go ((c.settle call request.token (server s request).1).1, ())).run
          server (server s request).2
          (c.settle call request.token (server s request).1).2 := by
  simp only [run, Slots.send_cons_of_some h]
  rfl

/-- A job whose one call is lost runs on at once. -/
theorem Job.run_call_of_none {σ α : Type} {server : Server σ} {s : σ}
    {c : Console} {call : Call} {go : Answers [call] → Job α}
    (h : c.request? call = none) :
    (Job.calls [call] go).run server s c
      = (go ((c.settle call c.session.token? .lost).1, ())).run server s
          (c.settle call c.session.token? .lost).2 := by
  simp only [run, Slots.send_cons_of_none h]
  rfl

namespace Console

-- ================================================================ failures

/-- Whether two consoles have the same token and user, in memory and in
storage. -/
structure SameSignedIn (c d : Console) : Prop where
  identity : d.session.identity = c.session.identity
  storedToken : d.session.storage.get? Session.tokenKey
    = c.session.storage.get? Session.tokenKey
  storedUser : d.session.storage.get? Session.userKey
    = c.session.storage.get? Session.userKey

theorem SameSignedIn.of_session {c d : Console}
    (h : d.session = c.session) : SameSignedIn c d := by
  constructor <;> rw [h]

/-- Whether a sign-in is sent with the token of a session, and refused. -/
structure RefusedSignedIn {σ : Type} (server : Server σ) (s : σ)
    (c : Console) (creds : Credentials) : Prop where
  valid : creds.violations = []
  signedIn : ∃ token, c.session.token? = some token
  refused : ∃ request, c.request? (loginCall creds) = some request
    ∧ (server s request).1.refuses = true

variable {σ : Type} {server : Server σ} {s : σ} {c : Console}
  {creds : Credentials}

/-- The reply to a request that was just sent ends the session if it
refuses and there is a session to end. -/
theorem endsBy_of_request {call : Call} {request : Request}
    (h : c.request? call = some request) (reply : Reply) :
    c.endsBy request.token reply
      = (reply.refuses && c.session.isAuthenticated) := by
  unfold endsBy
  rw [request?_token h]
  unfold Session.isAuthenticated
  cases ht : c.session.token? with
  | none =>
      rw [show c.session.identity.token = none from ht]
      rfl
  | some token =>
      rw [show c.session.identity.token = some token from ht]
      show (_ && c.session.holds token) = _
      rw [Session.holds_iff.2 ht]
      rfl

/-- Whoever is signed in and refused is signed out, and told so. -/
theorem login_of_refused (h : RefusedSignedIn server s c creds) :
    (∃ message, ((login creds).run server s c).1
        = .error (.sessionExpired message))
      ∧ ((login creds).run server s c).2.2.session
        = c.session.teardown := by
  obtain ⟨hvalid, ⟨token, htoken⟩, request, hr, href⟩ := h
  have hcarried : request.token = some token :=
    (request?_token hr).trans htoken
  obtain ⟨m, hv⟩ := (Verdict.refuses_iff (loginCall creds)).1 href
  rw [login_of_valid hvalid, Job.run_call_of_some hr, hcarried,
    settle_of_refused_token c hv, endSession_of_holds htoken]
  exact ⟨⟨_, rfl⟩, rfl⟩

/-- A sign-in that fails otherwise leaves the session. -/
theorem login_of_not_refused {e : ApiError}
    (hfailed : ((login creds).run server s c).1 = .error e)
    (h : ¬ RefusedSignedIn server s c creds) :
    ((login creds).run server s c).2.2.session = c.session := by
  cases hvalid : creds.violations with
  | cons v vs =>
      rw [login_of_invalid hvalid]
      rfl
  | nil =>
      rw [login_of_valid hvalid] at hfailed ⊢
      cases hr : c.request? (loginCall creds) with
      | none =>
          rw [Job.run_call_of_none hr, settle_lost]
          have hlost : c.endsBy c.session.token? .lost = false :=
            endsBy_of_not_refuses c rfl
          show (c.settle (loginCall creds) c.session.token? .lost).2.session
            = c.session
          rw [settle_session, hlost]
          rfl
      | some request =>
          -- a reply that ended the session would have been the refusal
          have hends : c.endsBy request.token (server s request).1
              = false := by
            rw [endsBy_of_request hr, ← Bool.not_eq_true]
            intro hboth
            obtain ⟨href, hin⟩ := Bool.and_eq_true_iff.1 hboth
            exact h ⟨hvalid, Option.isSome_iff_exists.1 hin, request, hr,
              href⟩
          rw [Job.run_call_of_some hr] at hfailed ⊢
          cases ho : (c.settle (loginCall creds) request.token
              (server s request).1).1 with
          | ok value =>
              rw [ho] at hfailed
              cases hfailed
          | error e' =>
              show (c.settle _ _ _).2.session = c.session
              rw [settle_session, hends]
              rfl

/-- A failed sign-in leaves everything as it was, in memory and in storage,
unless somebody is signed in and the server refuses the credentials: then
the session ends. -/
theorem login_failure_keeps_iff {e : ApiError}
    (hfailed : ((login creds).run server s c).1 = .error e) :
    SameSignedIn c ((login creds).run server s c).2.2
      ↔ ¬ RefusedSignedIn server s c creds := by
  constructor
  · intro hsame href
    obtain ⟨token, htoken⟩ := href.signedIn
    have hnobody := congrArg Session.identity (login_of_refused href).2
    have hgone : c.session.identity = Session.nobody :=
      hsame.identity.symm.trans hnobody
    have hnone : c.session.token? = none := congrArg Identity.token hgone
    rw [htoken] at hnone
    cases hnone
  · intro href
    exact .of_session (login_of_not_refused hfailed href)

/-- A server that refuses everything. -/
def refusing : Server Unit := fun s _ => (.response 401 [], s)

/-- A console with somebody signed in. -/
def occupied : Console :=
  ((Act.establish "t1" ⟨"alice", "admin"⟩).apply
    (.start "http://localhost/api/v1" (.memory []))).2

theorem occupied_refused :
    RefusedSignedIn refusing () occupied ⟨"bob", "mistyped"⟩ := by
  have hrequest : (occupied.request? (loginCall ⟨"bob", "mistyped"⟩)).isSome
      = true := by decide +kernel
  obtain ⟨request, hr⟩ := Option.isSome_iff_exists.1 hrequest
  exact ⟨by decide +kernel, ⟨"t1", rfl⟩, request, hr, rfl⟩

/-- Somebody who is signed in and mistypes the password of another account
is signed out. -/
theorem mistyped_password_signs_out :
    (∃ e, ((login ⟨"bob", "mistyped"⟩).run refusing () occupied).1
        = .error e)
      ∧ ¬ SameSignedIn occupied
          ((login ⟨"bob", "mistyped"⟩).run refusing () occupied).2.2 := by
  obtain ⟨m, hm⟩ := (login_of_refused occupied_refused).1
  refine ⟨⟨_, hm⟩, fun hsame => ?_⟩
  exact (login_failure_keeps_iff hm).1 hsame occupied_refused

end Console
end SecurityConsole
