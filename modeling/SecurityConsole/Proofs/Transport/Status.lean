/-
Responses that are no success: the status decides, and the body only lends
its message.

The verdict on a status other than 401 is a failure with one notice, which
the status names (`statusFailure`); 401 refuses the credentials. Whatever
the body is, it enters only as the message it lends (`lentMessage`). So two
bodies behind one status end a call alike, but for the words
(`settle_same_but_words`), and what is not lent makes no difference at all
(`settle_of_lentMessage`). A code inside such a body is never looked at, so
only the status 401 can end a session there (`status_decides_failure`).
-/
import SecurityConsole.Proofs.Transport.Refusal

namespace SecurityConsole

open Text (Bytes)

-- ================================================================= errors

namespace ApiError

/-- The failure told with another message, if it has one at all. -/
def withMessage (e : ApiError) (message : String) : ApiError :=
  match e with
  | .business code _ => .business code message
  | .sessionExpired _ => .sessionExpired message
  | .unauthorized _ => .unauthorized message
  | .network => .network
  | .server status _ => .server status message
  | .notFound _ => .notFound message
  | .forbidden _ => .forbidden message
  | .http status _ => .http status message
  | .decode reason => .decode reason
  | .validation violations => .validation violations

/-- Two failures of one kind and one label, which differ in the message at
most. -/
structure SameButMessage (e d : ApiError) : Prop where
  kind : e.kind = d.kind
  label : e.label = d.label
  rest : e.withMessage d.message = d

end ApiError

-- =============================================================== verdicts

/-- The code inside a body counts only behind a success. -/
theorem Reply.refuses_of_failure {status : Nat} {body : Bytes}
    (hno : Http.isSuccess status = false) :
    (Reply.response status body).refuses = decide (status = 401) := by
  simp [refuses, hno]

namespace Verdict

variable {call : Call}

/-- The message that the body of a response lends: the one of an envelope,
unless it is empty. -/
def lentMessage (status : Nat) (body : Bytes) : Option String :=
  (Envelope.ofBytes? (Http.carriedBody status body)).bind Envelope.message?

/-- The failure that a status other than 401 stands for, and the text of
the notice about it, both told with a message. -/
def statusFailure (status : Nat) (message : String) : ApiError × String :=
  if 500 ≤ status then (.server status message, Notice.serverError)
  else if status = 404 then (.notFound message, Notice.notFound)
  else if status = 403 then (.forbidden message, Notice.forbidden)
  else (.http status message, message)

/-- The status alone says which failure it is. -/
theorem statusFailure_cases (status : Nat) :
    (∀ m, statusFailure status m = (.server status m, Notice.serverError))
      ∨ (∀ m, statusFailure status m = (.notFound m, Notice.notFound))
      ∨ (∀ m, statusFailure status m = (.forbidden m, Notice.forbidden))
      ∨ ∀ m, statusFailure status m = (.http status m, m) := by
  unfold statusFailure
  by_cases hserver : 500 ≤ status
  · exact .inl fun _ => if_pos hserver
  simp only [if_neg hserver]
  by_cases hmissing : status = 404
  · exact .inr (.inl fun _ => if_pos hmissing)
  simp only [if_neg hmissing]
  by_cases hforbidden : status = 403
  · exact .inr (.inr (.inl fun _ => if_pos hforbidden))
  · exact .inr (.inr (.inr fun _ => if_neg hforbidden))

/-- Another message changes no more than the words. -/
theorem statusFailure_sameButMessage (status : Nat) (m n : String) :
    (statusFailure status m).1.SameButMessage (statusFailure status n).1 := by
  rcases statusFailure_cases status with h | h | h | h <;>
    (rw [h m, h n]; exact ⟨rfl, rfl, rfl⟩)

theorem ofReply_of_unauthorized (body : Bytes) :
    ofReply call (.response 401 body) = .refused (lentMessage 401 body) := by
  rw [ofReply_failure (by decide)]
  unfold ofFailure
  rw [if_pos rfl]
  rfl

/-- Any other status is a failure, and which one, the status says. By
cases of what the status can be: what fails on the server, what is
missing, what is forbidden, and the rest. -/
theorem ofReply_of_failure {status : Nat}
    (hno : Http.isSuccess status = false) (hne : status ≠ 401)
    (body : Bytes) :
    let failure := statusFailure status
      ((lentMessage status body).getD (statusMessage status))
    ofReply call (.response status body)
      = .failed failure.1 failure.2 := by
  rw [ofReply_failure hno]
  unfold ofFailure
  rw [if_neg hne]
  unfold statusFailure lentMessage
  by_cases hserver : 500 ≤ status
  · rw [if_pos hserver, if_pos hserver]
  rw [if_neg hserver, if_neg hserver]
  by_cases hmissing : status = 404
  · rw [if_pos hmissing, if_pos hmissing]
  rw [if_neg hmissing, if_neg hmissing]
  by_cases hforbidden : status = 403
  · rw [if_pos hforbidden, if_pos hforbidden]
  · rw [if_neg hforbidden, if_neg hforbidden]

end Verdict

-- =============================================================== settling

/-- Two ways for a call to fail, beginning with the notices of a console.
They differ in the words of the failure and of what is told about it, and
in nothing else. -/
structure SameButWords (c : Console) {call : Call}
    (r s : call.Outcome × Console) : Prop where
  failed : ∃ e d, r.1 = .error e ∧ s.1 = .error d ∧ e.SameButMessage d
  told : ∃ notices others, r.2.notices = c.notices ++ notices
    ∧ s.2.notices = c.notices ++ others
    ∧ notices.map Notice.level = others.map Notice.level
  console : s.2 = { r.2 with notices := s.2.notices }

namespace Console

variable {call : Call}

/-- What is not lent makes no difference. -/
theorem settle_of_lentMessage (c : Console) {status : Nat}
    (hno : Http.isSuccess status = false) (token : Option String)
    {body other : Bytes}
    (h : Verdict.lentMessage status body = Verdict.lentMessage status other) :
    c.settle call token (.response status body)
      = c.settle call token (.response status other) := by
  have hverdict : Verdict.ofReply call (.response status body)
      = Verdict.ofReply call (.response status other) := by
    by_cases hne : status = 401
    · subst hne
      rw [Verdict.ofReply_of_unauthorized, Verdict.ofReply_of_unauthorized, h]
    · rw [Verdict.ofReply_of_failure hno hne,
        Verdict.ofReply_of_failure hno hne, h]
  unfold settle
  rw [hverdict]

/-- Two failures of one status end a call alike, but for the words. -/
theorem settle_same_but_words (c : Console) {status : Nat}
    (hno : Http.isSuccess status = false) (token : Option String)
    (body other : Bytes) :
    SameButWords c (c.settle call token (.response status body))
      (c.settle call token (.response status other)) := by
  by_cases hne : status = 401
  · subst hne
    have hbody : Verdict.ofReply call (.response 401 body) = _ :=
      Verdict.ofReply_of_unauthorized body
    have hother : Verdict.ofReply call (.response 401 other) = _ :=
      Verdict.ofReply_of_unauthorized other
    cases token with
    | none =>
        rw [settle_of_refused_bare c hbody, settle_of_refused_bare c hother]
        exact ⟨⟨_, _, rfl, rfl, rfl, rfl, rfl⟩, ⟨_, _, rfl, rfl, rfl⟩, rfl⟩
    | some t =>
        rw [settle_of_refused_token c hbody,
          settle_of_refused_token c hother]
        refine ⟨⟨_, _, rfl, rfl, rfl, rfl, rfl⟩, ?_, rfl⟩
        by_cases hheld : c.session.token? = some t
        · rw [endSession_of_holds hheld]
          exact ⟨_, _, rfl, rfl, rfl⟩
        · rw [endSession_of_not_holds hheld]
          exact ⟨[], [], (List.append_nil _).symm,
            (List.append_nil _).symm, rfl⟩
  · rw [settle_of_failed c (Verdict.ofReply_of_failure hno hne body),
      settle_of_failed c (Verdict.ofReply_of_failure hno hne other)]
    have hsame := Verdict.statusFailure_sameButMessage status
      ((Verdict.lentMessage status body).getD (Verdict.statusMessage status))
      ((Verdict.lentMessage status other).getD (Verdict.statusMessage status))
    refine ⟨⟨_, _, rfl, rfl, hsame⟩, ⟨_, _, rfl, rfl, rfl⟩, ?_⟩
    rw [hsame.label]
    rfl

/-- Of a response that is no success, the status decides how a call ends,
whatever the bodies are: with the same failure, label, notices, session,
storage and visits, but for the words, which are the same too unless the
bodies lend other messages. Such a call never gets an answer, and only a
reply that refuses the credentials touches session, storage or visits. -/
theorem status_decides_failure (c : Console) (call : Call)
    (token : Option String) :
    (∀ status, Http.isSuccess status = false → ∀ body other : Bytes,
      let r := c.settle call token (.response status body)
      let s := c.settle call token (.response status other)
      SameButWords c r s
        ∧ (Verdict.lentMessage status body = Verdict.lentMessage status other →
            r = s)
        ∧ (status ≠ 401 →
            r.2.session = c.session ∧ r.2.visits = c.visits))
      ∧ ∀ reply : Reply, reply.refuses = false →
          (c.settle call token reply).2.session = c.session
            ∧ (c.settle call token reply).2.visits = c.visits := by
  have hkept : ∀ reply : Reply, reply.refuses = false →
      (c.settle call token reply).2.session = c.session
        ∧ (c.settle call token reply).2.visits = c.visits := by
    intro reply hreply
    have hends : c.endsBy token reply = false :=
      c.endsBy_of_not_refuses hreply
    rw [settle_session, settle_visits, hends]
    exact ⟨rfl, rfl⟩
  refine ⟨?_, hkept⟩
  intro status hno body other
  refine ⟨c.settle_same_but_words hno token body other,
    c.settle_of_lentMessage hno token, fun hne => hkept _ ?_⟩
  rw [Reply.refuses_of_failure hno]
  exact decide_eq_false hne

/-- A server that fails with an envelope of success, one with the code of
refused credentials, or none at all: the same failure, and the session
stays. -/
example :
    let c := Console.start "http://localhost"
      (.memory [(Session.tokenKey, "t1")])
    let settled := fun body : String =>
      c.settle ⟨.get, "/hosts", none, none, .value .json⟩ (some "t1")
        (.response 502 (Text.encode body))
    (settled "\x7b\"code\":0,\"data\":1\x7d").2.notices
        = [⟨.error, Notice.serverError⟩]
      ∧ (settled "\x7b\"code\":401\x7d").2.session.token? = some "t1"
      ∧ (settled "<html>").2.tally = [((.get, .serverError), 1)] := by
  decide +kernel

end Console
end SecurityConsole
