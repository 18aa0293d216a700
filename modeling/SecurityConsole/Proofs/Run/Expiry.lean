/-
Sessions that end because the server refuses their token.

A reply that refuses the token of its request makes the call fail, and
ends the session just when that very token is still held
(`settle_refusing`). Such an end is the one source of warnings, and next
to navigations the one reason to visit the page to sign in. It takes the
token away, and only signing in brings one back: so no run ends more
sessions than were established in it, token by token
(`replay_accounted`).
-/
import SecurityConsole.Proofs.Run.Effects
import SecurityConsole.Proofs.Run.History

namespace SecurityConsole

/-- The warning that a session has expired. -/
def expiryWarning : Notice := ⟨.warning, Notice.sessionExpired⟩

-- ============================================================== one reply

/-- What settling a call does when the reply refuses the token that the
request was sent with. -/
structure Refusing (c : Console) (token : String) {call : Call}
    (r : call.Outcome × Console) : Prop where
  rejected : ∃ message, r.1 = .error (.sessionExpired message)
  /-- A token that is held is forgotten, and its user with it. -/
  forgotten : c.session.token? = some token →
    r.2.session.identity = Session.nobody
  tokenRemoved : c.session.token? = some token →
    (c.session.storage.remove Session.tokenKey).1 = .ok () →
    r.2.session.storage.get? Session.tokenKey = none
  userRemoved : c.session.token? = some token →
    ((c.session.storage.remove Session.tokenKey).2.remove
      Session.userKey).1 = .ok () →
    r.2.session.storage.get? Session.userKey = none
  told : c.session.token? = some token →
    r.2.notices = c.notices ++ [expiryWarning]
      ∧ r.2.visits = c.visits ++ [Route.loginPath]
  /-- A token that is no longer held changes nothing. -/
  unchanged : c.session.token? ≠ some token →
    r.2.session = c.session ∧ r.2.notices = c.notices
      ∧ r.2.visits = c.visits

/-- What a refusal leaves, by whether the token of the request is still
held. -/
theorem settle_refusing (c : Console) (call : Call) {token : String}
    {reply : Reply} (h : reply.refuses = true) :
    Refusing c token (c.settle call (some token) reply) := by
  obtain ⟨m, hv⟩ := (Verdict.refuses_iff call).1 h
  have hsettle := Console.settle_of_refused_token c hv (t := token)
  -- the token is still held, and the session ends; or it is not, and
  -- the refusal comes too late for anything but the counters
  by_cases hheld : c.session.token? = some token
  · rw [Console.endSession_of_holds hheld] at hsettle
    rw [hsettle]
    exact
      { rejected := ⟨_, rfl⟩
        forgotten := fun _ => rfl
        tokenRemoved := fun _ hr => Session.get?_teardown_tokenKey hr
        userRemoved := fun _ hr => Session.get?_teardown_userKey hr
        told := fun _ => ⟨rfl, rfl⟩
        unchanged := fun hno => absurd hheld hno }
  · rw [Console.endSession_of_not_holds hheld] at hsettle
    rw [hsettle]
    exact
      { rejected := ⟨_, rfl⟩
        forgotten := fun hyes => absurd hyes hheld
        tokenRemoved := fun hyes => absurd hyes hheld
        userRemoved := fun hyes => absurd hyes hheld
        told := fun hyes => absurd hyes hheld
        unchanged := fun _ => ⟨rfl, rfl, rfl⟩ }

/-- A reply to a request that was sent without a token leaves session and
visits alone. -/
theorem settle_bare (c : Console) (call : Call) (reply : Reply) :
    (c.settle call none reply).2.session = c.session
      ∧ (c.settle call none reply).2.visits = c.visits := by
  have h : c.endsBy none reply = false := Bool.and_false _
  rw [Console.settle_session, Console.settle_visits, h]
  exact ⟨rfl, rfl⟩

-- ============================================================= accounting

namespace Happening

/-- The token of the session that a happening ends. -/
def expired? (c : Console) (h : Happening) : Option String :=
  if h.ends c then c.session.token? else none

/-- The token that a happening signs in with. -/
def established? : Happening → Option String
  | .acted (.establish token _) => some token
  | _ => none

/-- The locations that a happening visits on behalf of a task. -/
def requested : Happening → List String
  | .acted a => a.visited
  | _ => []

end Happening

/-- The tokens of the sessions that end on the way, in order. -/
def expiries (c : Console) : List Happening → List String
  | [] => []
  | h :: hs => (h.expired? c).toList ++ expiries (h.apply c) hs

/-- The tokens that are signed in with on the way, in order. -/
def establishments (hs : List Happening) : List String :=
  hs.filterMap Happening.established?

/-- The locations that tasks visit on the way, in order. -/
def requestedVisits (hs : List Happening) : List String :=
  hs.flatMap Happening.requested

namespace Happening

/-- Only a session that is held can end. -/
theorem token?_of_ends {c : Console} {h : Happening}
    (hends : h.ends c = true) : ∃ t, c.session.token? = some t := by
  obtain ⟨call, token, reply, -, hby⟩ := ends_cases hends
  unfold Console.endsBy at hby
  obtain ⟨-, ht⟩ := Bool.and_eq_true_iff.1 hby
  obtain ⟨t, -, hheld⟩ := (Option.any_eq_true _ _).1 ht
  exact ⟨t, Session.holds_iff.1 hheld⟩

theorem expired?_length (c : Console) (h : Happening) :
    (h.expired? c).toList.length = if h.ends c then 1 else 0 := by
  unfold expired?
  cases hends : h.ends c with
  | false => rfl
  | true =>
      obtain ⟨t, ht⟩ := token?_of_ends hends
      rw [ht]
      rfl

/-- Warnings come from ends of sessions, one from each. -/
theorem apply_warnings (c : Console) (h : Happening) :
    (h.apply c).notices.count expiryWarning
      = c.notices.count expiryWarning
          + (h.expired? c).toList.length := by
  rw [expired?_length]
  cases h with
  | acted a => exact congrArg (List.count _) (a.apply_notices c)
  | sent s => rfl
  | settled call token reply =>
      show (c.settle call token reply).2.notices.count _
        = _ + if c.endsBy token reply then 1 else 0
      cases hends : c.endsBy token reply with
      | true =>
          rw [Console.settle_of_endsBy call hends]
          exact List.count_append.trans rfl
      | false =>
          obtain ⟨told, label, htold, hc⟩ :=
            Console.settle_of_not_endsBy call hends
          have hnone : told.count expiryWarning = 0 := by
            refine List.count_eq_zero.2 fun hmem => ?_
            cases htold _ hmem
          rw [hc]
          exact List.count_append.trans (by rw [hnone]; rfl)
  | signalled => rfl
  | received =>
      obtain ⟨channel, h⟩ := received_eq c
      rw [h]
      rfl

/-- A visit to a location is asked for by a task, or it is the one to the
page to sign in at the end of a session. -/
theorem apply_logins (c : Console) (h : Happening) :
    (h.apply c).visits.count Route.loginPath
      = c.visits.count Route.loginPath + (h.expired? c).toList.length
          + h.requested.count Route.loginPath := by
  rw [expired?_length, apply_visits, List.count_append]
  cases h with
  | acted a => rfl
  | sent s => rfl
  | settled call token reply =>
      show _ + (if c.endsBy token reply then [Route.loginPath]
        else []).count _ = _ + (if c.endsBy token reply then 1 else 0) + 0
      cases c.endsBy token reply with
      | true => rw [if_pos rfl, if_pos rfl, List.count_singleton_self]
      | false => rfl
  | signalled => rfl
  | received => rfl

/-- What becomes of the token: it stays, or it is gone, or it is the one
that was just signed in with. -/
theorem onto_token?_cases (c : Console) (h : Happening) :
    (h.onto c).token? = c.session.token? ∨ (h.onto c).token? = none
      ∨ (h.onto c).token? = h.established? := by
  cases h with
  | acted a =>
      cases a with
      | establish token user => exact .inr (.inr rfl)
      | refreshUser token user => exact .inl Session.refreshUser_token?
      | clear => exact .inr (.inl rfl)
      | expire token =>
          rcases Session.expire_cases c.session token with hs | hs
          · exact .inr (.inl (congrArg Session.token? hs))
          · exact .inl (congrArg Session.token? hs)
      | _ => exact .inl rfl
  | settled call token reply =>
      show (if c.endsBy token reply then c.session.teardown
          else c.session).token? = _
        ∨ (if c.endsBy token reply then c.session.teardown
          else c.session).token? = _ ∨ _
      cases c.endsBy token reply with
      | true => exact .inr (.inl rfl)
      | false => exact .inl rfl
  | sent s => exact .inl rfl
  | signalled => exact .inl rfl
  | received => exact .inl rfl

/-- A session that ends leaves no token. -/
theorem onto_token?_of_ends {c : Console} {h : Happening}
    (hends : h.ends c = true) : (h.onto c).token? = none := by
  obtain ⟨call, token, reply, rfl, hby⟩ := ends_cases hends
  exact congrArg Session.token? (if_pos hby)

/-- Of the tokens of any kind: whether one expires now or is held
afterwards, it was signed in with now, or held before. -/
theorem apply_tokens (p : String → Bool) (c : Console) (h : Happening) :
    (h.expired? c).toList.countP p
        + (h.apply c).session.token?.toList.countP p
      ≤ h.established?.toList.countP p
        + c.session.token?.toList.countP p := by
  rw [apply_session]
  cases hends : h.ends c with
  | true =>
      have hexp : h.expired? c = c.session.token? := if_pos hends
      rw [hexp, onto_token?_of_ends hends]
      exact Nat.le_add_left _ _
  | false =>
      have hexp : h.expired? c = none :=
        if_neg (by rw [hends]; exact Bool.false_ne_true)
      have hzero : (none : Option String).toList.countP p = 0 := rfl
      rw [hexp, hzero]
      rcases h.onto_token?_cases c with ht | ht | ht
      · rw [ht]
        omega
      · rw [ht, hzero]
        omega
      · rw [ht]
        omega

end Happening

/-- What a trail does to warnings, visits and tokens. -/
structure Accounted (c : Console) (hs : List Happening) : Prop where
  /-- Each session that ends is told in one warning, and nothing else is. -/
  warnings : (replay c hs).notices.count expiryWarning
    = c.notices.count expiryWarning + (expiries c hs).length
  /-- Each of them leads to the page to sign in once; other visits to it
  are those of tasks. -/
  logins : (replay c hs).visits.count Route.loginPath
    = c.visits.count Route.loginPath + (expiries c hs).length
        + (requestedVisits hs).count Route.loginPath
  /-- A token expires no more often than it was signed in with, counting
  the one held at first, and not the one held at last. -/
  eachToken : ∀ token,
    (expiries c hs).count token
        + (replay c hs).session.token?.toList.count token
      ≤ (establishments hs).count token + c.session.token?.toList.count token
  allTokens :
    (expiries c hs).length + (replay c hs).session.token?.toList.length
      ≤ (establishments hs).length + c.session.token?.toList.length

/-- Along a trail there is one warning for each session that ended. -/
theorem expiries_warnings (hs : List Happening) : ∀ c : Console,
    (replay c hs).notices.count expiryWarning
      = c.notices.count expiryWarning + (expiries c hs).length := by
  induction hs with
  | nil => intro c; rfl
  | cons h hs ih =>
      intro c
      have hone := h.apply_warnings c
      rw [replay_cons, ih, expiries, List.length_append]
      omega

/-- And one visit to the page to sign in, beside those that navigations
have asked for. -/
theorem expiries_logins (hs : List Happening) : ∀ c : Console,
    (replay c hs).visits.count Route.loginPath
      = c.visits.count Route.loginPath + (expiries c hs).length
          + (requestedVisits hs).count Route.loginPath := by
  induction hs with
  | nil => intro c; rfl
  | cons h hs ih =>
      intro c
      have hone := h.apply_logins c
      have hreq : requestedVisits (h :: hs)
          = h.requested ++ requestedVisits hs := rfl
      rw [replay_cons, ih, expiries, List.length_append, hreq,
        List.count_append]
      omega

/-- Tokens are a balance: each end takes away one that is held, and only
a session that is established brings one. So the ends, and what is held
in the end, are paid for by what was established, and what was held at
first. -/
theorem expiries_tokens (p : String → Bool) (hs : List Happening) :
    ∀ c : Console,
      (expiries c hs).countP p
          + (replay c hs).session.token?.toList.countP p
        ≤ (establishments hs).countP p
          + c.session.token?.toList.countP p := by
  induction hs with
  | nil => intro c; exact Nat.le_refl _
  | cons h hs ih =>
      intro c
      have hone := h.apply_tokens p c
      have hrest := ih (h.apply c)
      have hest : establishments (h :: hs)
          = h.established?.toList ++ establishments hs := by
        unfold establishments
        rw [List.filterMap_cons]
        cases h.established? <;> rfl
      rw [replay_cons, expiries, hest, List.countP_append,
        List.countP_append]
      omega

theorem replay_accounted (c : Console) (hs : List Happening) :
    Accounted c hs where
  warnings := expiries_warnings hs c
  logins := expiries_logins hs c
  eachToken := fun token => expiries_tokens (· == token) hs c
  allTokens := by
    have h := expiries_tokens (fun _ => true) hs c
    simpa only [List.countP_true] using h

-- ================================================================ the runs

/-- Every session is ended at most once, whatever the order of replies.

In every run of a new console: what happens in it, one thing after the
other, leads to its console. The reply to a request under way is settled
with the token that was held when the request was sent, before anything
else happens. Every such reply that refuses a token does what `Refusing`
says, and one that refuses a request without a token leaves the session
alone. And at every point of the run, warnings, visits and tokens are
accounted for. -/
theorem Workload.run_ends_sessions_once (baseUrl : String)
    (storage : Storage) (ms : List Move) :
    let first := Console.start baseUrl storage
    let happened := (Console.fresh baseUrl storage).trail ms
    let last := (Console.fresh baseUrl storage).run ms
    last.console = replay first happened
      ∧ (∀ s ∈ last.outstanding, ∀ reply,
          (∃ before behind, happened = before ++ .sent s :: behind
            ∧ s.request.token = (replay first before).session.token?)
          ∧ ∃ rest, (Console.fresh baseUrl storage).trail
              (ms ++ [.reply s.number reply])
            = happened ++ .settled s.call s.request.token reply :: rest)
      ∧ (∀ before call token reply behind,
          happened = before ++ .settled call (some token) reply :: behind →
          reply.refuses = true →
          Refusing (replay first before) token
            ((replay first before).settle call (some token) reply))
      ∧ (∀ before call reply behind,
          happened = before ++ .settled call none reply :: behind →
          (replay first (before ++ [.settled call none reply])).session
            = (replay first before).session)
      ∧ ∀ before behind, happened = before ++ behind →
          Accounted first before := by
  intro first happened last
  refine ⟨run_replay _ ms, ?_, ?_, ?_, ?_⟩
  · intro s hs reply
    refine ⟨?_, ?_⟩
    · obtain ⟨before, behind, hsplit, hr⟩ := outstanding_sent hs
      exact ⟨before, behind, hsplit, Console.request?_token hr⟩
    · obtain ⟨rest, hrest⟩ := deliverTrail_of_outstanding
        (run_numbered baseUrl storage ms) hs reply
      refine ⟨rest, ?_⟩
      rw [trail_concat]
      exact congrArg (happened ++ ·) hrest
  · intro before call token reply behind _ href
    exact settle_refusing _ call href
  · intro before call reply behind _
    rw [replay_append]
    exact (settle_bare _ call reply).1
  · intro before behind _
    exact replay_accounted first before

/-- Two requests with one token, both refused: one warning, one visit. -/
example :
    let w := (Console.fresh "http://localhost" (.memory [])).run
      [.begin "a" (.perform (.establish "t1" ⟨"alice", "admin"⟩)),
        .begin "b" .revalidate, .begin "c" .logout,
        .reply 1 (.response 401 []), .reply 0 (.response 401 [])]
    w.console.notices = [expiryWarning] ∧ w.console.visits = ["/login"] := by
  decide +kernel

end SecurityConsole
