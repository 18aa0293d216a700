/-
Replies that refuse the credentials, and what settling a call does to the
console.

A reply refuses by its status, or, inside a success, by the code of its
envelope (`Reply.refuses`); the verdict on it is `refused` just then,
whatever the call (`refuses_iff`). Of all replies only these can touch
the session, and only when the session still holds the token that the
request was sent with (`Console.endsBy`, `settle_session`). That case
brings the one warning and the one visit to the page to sign in; no
other case visits anything or warns of anything.
-/
import SecurityConsole.Console.Transport
import SecurityConsole.Proofs.Session.Changes

namespace SecurityConsole

-- =============================================================== refusals

/-- Whether a reply says that the credentials are no good. -/
def Reply.refuses : Reply → Bool
  | .lost => false
  | .response status body =>
    status = 401 || (Http.isSuccess status &&
      (Envelope.ofBytes? (Http.carriedBody status body)).any
        fun e => e.code = Envelope.codeUnauthorized)

namespace Verdict

variable {call : Call}

/-- An envelope refuses by its code. -/
theorem ofEnvelope_refused_iff {e : Envelope} :
    (∃ m, ofEnvelope call e = .refused m)
      ↔ e.code = Envelope.codeUnauthorized := by
  unfold ofEnvelope
  by_cases hok : e.code = Envelope.codeOk
  · have hne : ¬ e.code = Envelope.codeUnauthorized := by
      rw [hok]
      decide
    rw [if_pos hok]
    cases call.answer.decode e.data with
    | some value => simp [hne]
    | none => simp [hne, malformed]
  · rw [if_neg hok]
    by_cases hno : e.code = Envelope.codeUnauthorized
    · rw [if_pos hno]
      exact ⟨fun _ => hno, fun _ => ⟨_, rfl⟩⟩
    · rw [if_neg hno]
      simp [hno]

/-- A failure refuses by its status, whatever its body. -/
theorem ofFailure_refused_iff {status : Nat} {body : Text.Bytes} :
    (∃ m, ofFailure call status body = .refused m) ↔ status = 401 := by
  unfold ofFailure
  by_cases h : status = 401
  · simp [h]
  · refine ⟨?_, fun h' => absurd h' h⟩
    rintro ⟨m, hm⟩
    rw [if_neg h] at hm
    split at hm
    · cases hm
    · split at hm
      · cases hm
      · split at hm <;> cases hm

/-- The verdict on a success. -/
theorem ofReply_success {status : Nat} {body : Text.Bytes}
    (h : Http.isSuccess status = true) :
    ofReply call (.response status body)
      = ofSuccess call (Http.carriedBody status body) := by
  unfold ofReply
  exact if_pos h

/-- The verdict on a status that is no success. -/
theorem ofReply_failure {status : Nat} {body : Text.Bytes}
    (h : Http.isSuccess status = false) :
    ofReply call (.response status body)
      = ofFailure call status (Http.carriedBody status body) := by
  unfold ofReply
  exact if_neg (by rw [h]; exact Bool.false_ne_true)

/-- The verdict on a reply is `refused` just when the reply refuses. -/
theorem refuses_iff (call : Call) {reply : Reply} :
    reply.refuses = true ↔ ∃ m, ofReply call reply = .refused m := by
  cases reply with
  | lost => simp [Reply.refuses, ofReply]
  | response status body =>
      cases hs : Http.isSuccess status with
      | true =>
          have hne : ¬ status = 401 := by
            rintro rfl
            simp [Http.isSuccess] at hs
          rw [ofReply_success hs]
          unfold ofSuccess Reply.refuses
          cases he : Envelope.ofBytes? (Http.carriedBody status body) with
          | none => simp [hne, malformed, he]
          | some e =>
              show _ ↔ ∃ m, ofEnvelope call e = .refused m
              rw [ofEnvelope_refused_iff]
              simp [hs, hne, he]
      | false =>
          rw [ofReply_failure hs, ofFailure_refused_iff]
          simp [Reply.refuses, hs]

theorem refuses_of_refused {reply : Reply} {m : Option String}
    (h : ofReply call reply = .refused m) : reply.refuses = true :=
  (refuses_iff call).2 ⟨m, h⟩

end Verdict

namespace Console

-- ================================================================ sending

/-- A request carries the token that is held when it is sent. -/
theorem request?_token {c : Console} {call : Call} {request : Request}
    (h : c.request? call = some request) :
    request.token = c.session.token? := by
  unfold request? at h
  split at h
  · split at h
    · cases h
      rfl
    · cases h
  · cases h

-- =============================================================== settling

/-- Whether settling a reply to a request that was sent with a token, or
without one, ends the session. -/
def endsBy (c : Console) (token : Option String) (reply : Reply) : Bool :=
  reply.refuses && token.any c.session.holds

variable {call : Call} {token : Option String} {reply : Reply}

theorem endsBy_of_not_refuses (c : Console) (h : reply.refuses = false) :
    c.endsBy token reply = false := by
  unfold endsBy
  rw [h, Bool.false_and]

theorem endsBy_of_refuses (c : Console) (h : reply.refuses = true) :
    c.endsBy token reply = token.any c.session.holds := by
  unfold endsBy
  rw [h, Bool.true_and]

/-- The one who ends a session says so and leads to the sign-in page. -/
theorem endSession_of_holds {c : Console} {t : String}
    (h : c.session.token? = some t) :
    c.endSession t
      = ({ c with session := c.session.teardown }.notify
          ⟨.warning, Notice.sessionExpired⟩).visit Route.loginPath := by
  unfold endSession
  rw [Session.expire_of_holds h]

/-- A token that is no longer held ends nothing. -/
theorem endSession_of_not_holds {c : Console} {t : String}
    (h : c.session.token? ≠ some t) : c.endSession t = c := by
  unfold endSession
  rw [Session.expire_of_not_holds h]

/-- An answer changes nothing but the count. -/
theorem settle_of_answered (c : Console) {v : call.answer.Value}
    (h : Verdict.ofReply call reply = .answered v) :
    c.settle call token reply = (.ok v, c.counted call.method .ok) := by
  unfold settle
  rw [h]
  rfl

/-- A failure is told in one notice. -/
theorem settle_of_failed (c : Console) {e : ApiError} {text : String}
    (h : Verdict.ofReply call reply = .failed e text) :
    c.settle call token reply
      = (.error e, (c.notify ⟨.error, text⟩).counted call.method e.label) := by
  unfold settle
  rw [h]
  rfl

/-- A lost call fails. -/
theorem settle_lost (c : Console) (call : Call) (token : Option String) :
    (c.settle call token .lost).1 = .error .network := by
  have h : Verdict.ofReply call .lost
      = .failed .network Notice.networkError := rfl
  rw [settle_of_failed c h]

/-- A refused token makes the call fail, and ends its session. -/
theorem settle_of_refused_token (c : Console) {t : String}
    {m : Option String} (h : Verdict.ofReply call reply = .refused m) :
    c.settle call (some t) reply
      = (.error (.sessionExpired (m.getD Notice.sessionExpired)),
          (c.endSession t).counted call.method .sessionExpired) := by
  unfold settle
  rw [h]
  rfl

/-- Refused credentials without a token are told in one notice. -/
theorem settle_of_refused_bare (c : Console) {m : Option String}
    (h : Verdict.ofReply call reply = .refused m) :
    c.settle call none reply
      = (.error (.unauthorized (m.getD Notice.invalidCredentials)),
          (c.notify ⟨.error, m.getD Notice.invalidCredentials⟩).counted
            call.method .unauthorized) := by
  unfold settle
  rw [h]
  rfl

/-- Settling ends the session: the warning, the visit, and the count. -/
theorem settle_of_endsBy {c : Console} (call : Call)
    (h : c.endsBy token reply = true) :
    (c.settle call token reply).2
      = (({ c with session := c.session.teardown }.notify
          ⟨.warning, Notice.sessionExpired⟩).visit Route.loginPath).counted
            call.method .sessionExpired := by
  unfold endsBy at h
  obtain ⟨hr, ht⟩ := Bool.and_eq_true_iff.1 h
  obtain ⟨t, rfl, hheld⟩ := (Option.any_eq_true _ _).1 ht
  obtain ⟨m, hv⟩ := (Verdict.refuses_iff call).1 hr
  rw [settle_of_refused_token c hv,
    endSession_of_holds (Session.holds_iff.1 hheld)]

/-- Otherwise settling only tells of errors, and counts. -/
theorem settle_of_not_endsBy {c : Console} (call : Call)
    (h : c.endsBy token reply = false) :
    ∃ (told : List Notice) (label : OutcomeLabel),
      (∀ n ∈ told, n.level = .error) ∧
      (c.settle call token reply).2
        = { c with notices := c.notices ++ told }.counted
            call.method label := by
  cases hv : Verdict.ofReply call reply with
  | answered v =>
      refine ⟨[], .ok, by simp, ?_⟩
      rw [settle_of_answered c hv, List.append_nil]
  | failed e text =>
      refine ⟨[⟨.error, text⟩], e.label, by simp, ?_⟩
      rw [settle_of_failed c hv]
      rfl
  | refused m =>
      cases token with
      | none =>
          refine ⟨[⟨.error, m.getD Notice.invalidCredentials⟩],
            .unauthorized, by simp, ?_⟩
          rw [settle_of_refused_bare c hv]
          rfl
      | some t =>
          rw [endsBy_of_refuses c (Verdict.refuses_of_refused hv)] at h
          refine ⟨[], .sessionExpired, by simp, ?_⟩
          rw [settle_of_refused_token c hv,
            endSession_of_not_holds (Session.not_holds_iff.1 h),
            List.append_nil]

/-- Settling leaves the session alone, unless it ends it. -/
theorem settle_session (c : Console) (call : Call)
    (token : Option String) (reply : Reply) :
    (c.settle call token reply).2.session
      = if c.endsBy token reply then c.session.teardown else c.session := by
  cases h : c.endsBy token reply with
  | true => rw [settle_of_endsBy call h]; rfl
  | false =>
      obtain ⟨told, label, -, hc⟩ := settle_of_not_endsBy call h
      rw [hc]
      rfl

/-- A token that is held behind a reply was held before, and the session
is as it was. -/
theorem settle_survivor {c : Console} {held : String}
    (h : (c.settle call token reply).2.session.token? = some held) :
    (c.settle call token reply).2.session = c.session
      ∧ c.session.token? = some held := by
  rw [settle_session] at h ⊢
  cases hends : c.endsBy token reply with
  | true =>
      rw [hends] at h
      cases h
  | false =>
      rw [hends] at h
      exact ⟨rfl, h⟩

/-- Settling visits nothing, unless it ends the session. -/
theorem settle_visits (c : Console) (call : Call)
    (token : Option String) (reply : Reply) :
    (c.settle call token reply).2.visits
      = if c.endsBy token reply then c.visits ++ [Route.loginPath]
        else c.visits := by
  cases h : c.endsBy token reply with
  | true => rw [settle_of_endsBy call h]; rfl
  | false =>
      obtain ⟨told, label, -, hc⟩ := settle_of_not_endsBy call h
      rw [hc]
      rfl

/-- The outcome of a call depends on its reply and on whether it was sent
with a token, not on the console that settles it. -/
theorem settle_outcome (c d : Console) (call : Call)
    (token : Option String) (reply : Reply) :
    (c.settle call token reply).1 = (d.settle call token reply).1 := by
  cases hv : Verdict.ofReply call reply with
  | answered v => rw [settle_of_answered c hv, settle_of_answered d hv]
  | failed e text => rw [settle_of_failed c hv, settle_of_failed d hv]
  | refused m =>
      cases token with
      | none =>
          rw [settle_of_refused_bare c hv, settle_of_refused_bare d hv]
      | some t =>
          rw [settle_of_refused_token c hv, settle_of_refused_token d hv]

/-- A call is answered just when the verdict on its reply says so. -/
theorem settle_ok_iff (c : Console) {v : call.answer.Value} :
    (c.settle call token reply).1 = .ok v
      ↔ Verdict.ofReply call reply = .answered v := by
  cases hv : Verdict.ofReply call reply with
  | answered w =>
      rw [settle_of_answered c hv]
      constructor
      · intro h
        cases h
        rfl
      · intro h
        cases h
        rfl
  | failed e text =>
      rw [settle_of_failed c hv]
      constructor <;> intro h <;> cases h
  | refused m =>
      cases token with
      | none =>
          rw [settle_of_refused_bare c hv]
          constructor <;> intro h <;> cases h
      | some t =>
          rw [settle_of_refused_token c hv]
          constructor <;> intro h <;> cases h

end Console
end SecurityConsole
