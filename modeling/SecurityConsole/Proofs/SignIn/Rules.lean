/-
What signing in and checking a token ensure: one rule for each of the two
jobs, in terms of the verdict on the reply. Whoever uses them need not look
at the jobs again.
-/
import SecurityConsole.Console.SignIn
import SecurityConsole.Proofs.Job.Ensures
import SecurityConsole.Proofs.Transport.Refusal

namespace SecurityConsole.Console

variable {R : Console → Console → Prop} {W : Cause → Console → Prop}
  {x : Cause} {c : Console}

-- ================================================================ sign-in

/-- What is left to do with the outcome of a sign-in. -/
def signedIn (creds : Credentials) :
    (loginCall creds).Outcome → Job (Except ApiError Grant)
  | .ok value =>
    .act (.establish (Grant.ofValue value).token (Grant.ofValue value).user)
      fun _ => .done (.ok (Grant.ofValue value))
  | .error e => .done (.error e)

/-- Signing in sends one call, if the credentials keep the rules. -/
theorem login_of_valid {creds : Credentials} (h : creds.violations = []) :
    login creds
      = .calls [loginCall creds] fun as => signedIn creds as.1 := by
  unfold login
  rw [h]
  rfl

/-- Else nothing is sent, and all rules that were broken are told. -/
theorem login_of_invalid {creds : Credentials} {v : Violation}
    {vs : List Violation} (h : creds.violations = v :: vs) :
    login creds = .done (.error (.validation (v :: vs))) := by
  unfold login
  rw [h]

/-- Signing in: rules that are broken are told at once; else there is the
grant of an answer, or the failure of the call. -/
theorem login_ensures {creds : Credentials}
    {Q : Cause → Console → Except ApiError Grant → Prop}
    (hinvalid : creds.violations ≠ [] →
      Q x c (.error (.validation creds.violations)))
    (hsent : ∀ request, c.request? (loginCall creds) = some request → W x c)
    (hgranted : ∀ request reply d v,
      c.request? (loginCall creds) = some request → R c d →
      Verdict.ofReply (loginCall creds) reply = .answered v →
      Q (.replied ⟨loginCall creds, request, reply⟩ d)
        ((Act.establish (Grant.ofValue v).token (Grant.ofValue v).user).apply
          (d.settle (loginCall creds) request.token reply).2).2
        (.ok (Grant.ofValue v)))
    (hfailed : ∀ request reply d e,
      c.request? (loginCall creds) = some request → R c d →
      (d.settle (loginCall creds) request.token reply).1 = .error e →
      Q (.replied ⟨loginCall creds, request, reply⟩ d)
        (d.settle (loginCall creds) request.token reply).2 (.error e))
    (hlost : c.request? (loginCall creds) = none →
      Q x (c.settle (loginCall creds) c.session.token? .lost).2
        (.error .network)) :
    (login creds).Ensures R W Q x c := by
  cases hvalid : creds.violations with
  | cons v vs =>
      rw [login_of_invalid hvalid]
      rw [hvalid] at hinvalid
      exact hinvalid (List.cons_ne_nil v vs)
  | nil =>
      rw [login_of_valid hvalid]
      refine Job.Ensures.call (fun request hr => ⟨hsent request hr, ?_⟩) ?_
      · intro reply d hd
        show (signedIn creds (d.settle _ _ reply).1).Ensures R W Q _ _
        cases ho : (d.settle (loginCall creds) request.token reply).1 with
        | ok v =>
            exact hgranted request reply d v hr hd
              ((settle_ok_iff d).1 ho)
        | error e => exact hfailed request reply d e hr hd ho
      · intro hr
        show (signedIn creds
          (c.settle _ c.session.token? .lost).1).Ensures R W Q _ _
        rw [settle_lost]
        exact hlost hr

-- ============================================================ revalidation

/-- What is left to do once the server has said whose a token is. -/
def revalidated (token : String) : currentUserCall.Outcome → Job Unit
  | .ok value =>
    .act (.refreshUser token (SessionUser.ofValue value)) fun _ => .done ()
  | .error _ => .act (.expire token) fun _ => .done ()

/-- Checking a token asks for the user, if there is a token. -/
theorem revalidate_eq :
    revalidate = .read fun c =>
      match c.session.token? with
      | none => .done ()
      | some token =>
        .calls [currentUserCall] fun as => revalidated token as.1 := rfl

/-- Checking a token: the user that the server names takes the place of the
one remembered; if it names none, the token is given up. -/
theorem revalidate_ensures {Q : Cause → Console → Unit → Prop}
    (hnobody : c.session.token? = none → Q x c ())
    (hsent : ∀ request, c.request? currentUserCall = some request → W x c)
    (hvouched : ∀ token request reply d v,
      c.session.token? = some token →
      c.request? currentUserCall = some request → R c d →
      Verdict.ofReply currentUserCall reply = .answered v →
      Q (.replied ⟨currentUserCall, request, reply⟩ d)
        ((Act.refreshUser token (SessionUser.ofValue v)).apply
          (d.settle currentUserCall request.token reply).2).2 ())
    (hfailed : ∀ token request reply d,
      c.session.token? = some token →
      c.request? currentUserCall = some request → R c d →
      Q (.replied ⟨currentUserCall, request, reply⟩ d)
        ((Act.expire token).apply
          (d.settle currentUserCall request.token reply).2).2 ())
    (hlost : ∀ token, c.session.token? = some token →
      c.request? currentUserCall = none →
      Q x ((Act.expire token).apply
        (c.settle currentUserCall c.session.token? .lost).2).2 ()) :
    revalidate.Ensures R W Q x c := by
  rw [revalidate_eq]
  simp only [Job.Ensures]
  cases htoken : c.session.token? with
  | none => exact hnobody htoken
  | some token =>
      refine Job.Ensures.call (fun request hr => ⟨hsent request hr, ?_⟩) ?_
      · intro reply d hd
        show (revalidated token (d.settle _ _ reply).1).Ensures R W Q _ _
        cases ho : (d.settle currentUserCall request.token reply).1 with
        | ok v =>
            exact hvouched token request reply d v htoken hr hd
              ((settle_ok_iff d).1 ho)
        | error e => exact hfailed token request reply d htoken hr hd
      · intro hr
        show (revalidated token
          (c.settle _ c.session.token? .lost).1).Ensures R W Q _ _
        rw [settle_lost]
        exact hlost token htoken hr

end SecurityConsole.Console
