/-
Every request is counted once, and told once if it failed.

A request completes when its reply is settled, or when it is lost before
it leaves. Settling adds one to one counter, the one of the call's method
and of the label of its outcome (`settle_tally`), and one notice of an
error if the label is that of a failure other than an expired session
(`settle_errors`). Nothing else that can happen counts or tells anything.
So along every trail the counters and the notices of errors are those of
the requests completed on the way (`replay_counted`), whatever the tasks
make of the outcomes, and at every point of a run
(`run_counts_requests`).
-/
import SecurityConsole.Proofs.Run.Effects
import SecurityConsole.Proofs.Run.History
import SecurityConsole.Proofs.Transport.Status

namespace SecurityConsole

-- ================================================================= labels

/-- Whether a request that ended so is told as an error. -/
def OutcomeLabel.isTold : OutcomeLabel → Bool
  | .ok | .sessionExpired => false
  | _ => true

/-- Whether a notice tells of an error. -/
def Notice.isError (n : Notice) : Bool := n.level = .error

namespace Verdict

variable {call : Call}

/-- A reply with a status of success fails as its envelope says, or as
one that cannot be read. An expired session is no failure of the verdict
yet, and rules are checked before anything is sent. -/
theorem label_of_ofSuccess {body : Text.Bytes} {e : ApiError}
    {text : String} (h : ofSuccess call body = .failed e text) :
    e.label ≠ .sessionExpired ∧ e.label ≠ .validationError := by
  unfold ofSuccess at h
  cases hbody : Envelope.ofBytes? body with
  | none =>
      rw [hbody] at h
      cases h
      exact ⟨nofun, nofun⟩
  | some envelope =>
      rw [hbody] at h
      have h : ofEnvelope call envelope = .failed e text := h
      unfold ofEnvelope at h
      -- success with data that can or cannot be read, a refusal, or a
      -- failure of the business
      by_cases hok : envelope.code = Envelope.codeOk
      · rw [if_pos hok] at h
        cases hvalue : call.answer.decode envelope.data with
        | some value =>
            rw [hvalue] at h
            cases h
        | none =>
            rw [hvalue] at h
            cases h
            exact ⟨nofun, nofun⟩
      · rw [if_neg hok] at h
        by_cases hno : envelope.code = Envelope.codeUnauthorized
        · rw [if_pos hno] at h
          cases h
        · rw [if_neg hno] at h
          cases h
          exact ⟨nofun, nofun⟩

theorem label_of_statusFailure (status : Nat) (m : String) :
    (statusFailure status m).1.label ≠ .sessionExpired
      ∧ (statusFailure status m).1.label ≠ .validationError := by
  rcases statusFailure_cases status with h | h | h | h <;>
    (rw [h m]; exact ⟨nofun, nofun⟩)

/-- No reply fails by the expiry of the session or by a broken rule. -/
theorem label_of_failed {reply : Reply} {e : ApiError} {text : String}
    (h : ofReply call reply = .failed e text) :
    e.label ≠ .sessionExpired ∧ e.label ≠ .validationError := by
  cases reply with
  | lost =>
      cases h
      exact ⟨nofun, nofun⟩
  | response status body =>
      cases hstatus : Http.isSuccess status with
      | true =>
          rw [ofReply_success hstatus] at h
          exact label_of_ofSuccess h
      | false =>
          by_cases hno : status = 401
          · rw [hno, ofReply_of_unauthorized] at h
            cases h
          · rw [ofReply_of_failure hstatus hno] at h
            cases h
            exact label_of_statusFailure status _

end Verdict

-- =============================================================== settling

namespace Console

variable {call : Call} {token : Option String} {reply : Reply}

theorem endSession_tally (c : Console) (token : String) :
    (c.endSession token).tally = c.tally := by
  unfold endSession Session.expire
  cases c.session.holds token <;> rfl

/-- Settling counts the call under the label of its outcome. -/
theorem settle_tally (c : Console) (call : Call) (token : Option String)
    (reply : Reply) :
    (c.settle call token reply).2.tally
      = c.tally.bump
          (call.method, OutcomeLabel.of (c.settle call token reply).1) := by
  cases hv : Verdict.ofReply call reply with
  | answered v =>
      rw [settle_of_answered c hv]
      rfl
  | failed e text =>
      rw [settle_of_failed c hv]
      rfl
  | refused m =>
      cases token with
      | none =>
          rw [settle_of_refused_bare c hv]
          rfl
      | some t =>
          rw [settle_of_refused_token c hv]
          exact congrArg (Tally.bump _) (c.endSession_tally t)

/-- What settling tells: one error, unless the call was answered or its
session has expired. -/
theorem settle_told (c : Console) (call : Call) (token : Option String)
    (reply : Reply) :
    ∃ told, (c.settle call token reply).2.notices = c.notices ++ told
      ∧ told.countP Notice.isError
        = (OutcomeLabel.of (c.settle call token reply).1).isTold.toNat
      ∧ (OutcomeLabel.of (c.settle call token reply).1 = .ok → told = []) := by
  cases hv : Verdict.ofReply call reply with
  | answered v =>
      rw [settle_of_answered c hv]
      exact ⟨[], (List.append_nil _).symm, rfl, fun _ => rfl⟩
  | failed e text =>
      rw [settle_of_failed c hv]
      refine ⟨[⟨.error, text⟩], rfl, ?_, ?_⟩
      · have hlabel := (Verdict.label_of_failed hv).1
        show 1 = e.label.isTold.toNat
        cases e with
        | sessionExpired message => exact absurd rfl hlabel
        | _ => rfl
      · intro hok
        have hok : e.label = .ok := hok
        cases e <;> cases hok
  | refused m =>
      cases token with
      | none =>
          rw [settle_of_refused_bare c hv]
          exact ⟨[⟨.error, _⟩], rfl, rfl, nofun⟩
      | some t =>
          rw [settle_of_refused_token c hv]
          -- the expiry is told as a warning, and only by the reply that
          -- ends it
          by_cases hheld : c.session.token? = some t
          · rw [endSession_of_holds hheld]
            exact ⟨[⟨.warning, _⟩], rfl, rfl, nofun⟩
          · rw [endSession_of_not_holds hheld]
            exact ⟨[], (List.append_nil _).symm, rfl, fun _ => rfl⟩

/-- No request that was sent is counted as one that broke a rule. -/
theorem settle_label_ne_validation (c : Console) (call : Call)
    (token : Option String) (reply : Reply) :
    OutcomeLabel.of (c.settle call token reply).1 ≠ .validationError := by
  cases hv : Verdict.ofReply call reply with
  | answered v =>
      rw [settle_of_answered c hv]
      exact nofun
  | failed e text =>
      rw [settle_of_failed c hv]
      exact (Verdict.label_of_failed hv).2
  | refused m =>
      cases token with
      | none =>
          rw [settle_of_refused_bare c hv]
          exact nofun
      | some t =>
          rw [settle_of_refused_token c hv]
          exact nofun

end Console

/-- What settling a call adds to the counters and to the notices of a
console: one to the counter of its method and its own label, and one error
just if the label is told as one; an answer adds no notice at all. -/
structure CountedOnce (c : Console) {call : Call}
    (r : call.Outcome × Console) : Prop where
  counted : ∀ key, r.2.tally.count key = c.tally.count key
    + if key = (call.method, OutcomeLabel.of r.1) then 1 else 0
  errors : r.2.notices.countP Notice.isError
    = c.notices.countP Notice.isError + (OutcomeLabel.of r.1).isTold.toNat
  answered : OutcomeLabel.of r.1 = .ok → r.2.notices = c.notices

/-- A reply that is settled is counted once, and told if it is a failure
other than an expired session. Ending the session touches no counter and
shows a warning, which is no error. -/
theorem settle_countedOnce (c : Console) (call : Call)
    (token : Option String) (reply : Reply) :
    CountedOnce c (c.settle call token reply) := by
  obtain ⟨told, htold, herrors, hok⟩ := c.settle_told call token reply
  refine ⟨?_, ?_, ?_⟩
  · intro key
    rw [c.settle_tally, Tally.count_bump]
  · rw [htold, List.countP_append, herrors]
  · intro h
    rw [htold, hok h, List.append_nil]

-- ============================================================= happenings

namespace Happening

/-- The request that completes with a happening: its method, and the label
of its outcome. -/
def completed? (c : Console) : Happening → Option (Method × OutcomeLabel)
  | .settled call token reply =>
    some (call.method, OutcomeLabel.of (c.settle call token reply).1)
  | _ => none

/-- Nothing counts or tells anything, unless a request completes. -/
theorem apply_of_not_completed {c : Console} {h : Happening}
    (hnone : h.completed? c = none) :
    (h.apply c).tally = c.tally ∧ (h.apply c).notices = c.notices := by
  cases h with
  | settled call token reply => cases hnone
  | acted a => exact ⟨a.apply_tally c, a.apply_notices c⟩
  | sent s => exact ⟨rfl, rfl⟩
  | signalled => exact ⟨rfl, rfl⟩
  | received =>
      obtain ⟨channel, h⟩ := received_eq c
      rw [h]
      exact ⟨rfl, rfl⟩

end Happening

/-- The requests that complete on the way, in order. -/
def completions (c : Console) : List Happening → List (Method × OutcomeLabel)
  | [] => []
  | h :: hs => (h.completed? c).toList ++ completions (h.apply c) hs

theorem completions_of_not_completed {c : Console} {h : Happening}
    (hnone : h.completed? c = none) (hs : List Happening) :
    completions c (h :: hs) = completions (h.apply c) hs := by
  rw [completions, hnone]
  rfl

/-- The completions of a trail, at a reply that is settled. -/
theorem completions_settled (c : Console) (call : Call)
    (token : Option String) (reply : Reply) (hs : List Happening) :
    completions c (.settled call token reply :: hs)
      = (call.method, OutcomeLabel.of (c.settle call token reply).1)
        :: completions (c.settle call token reply).2 hs := rfl

/-- The counters and the notices of errors that a trail leads to are those
that a console had before, and those of the requests completed on the
way. -/
structure Counted (c : Console) (hs : List Happening) : Prop where
  counters : ∀ key, (replay c hs).tally.count key
    = c.tally.count key + (completions c hs).count key
  errors : (replay c hs).notices.countP Notice.isError
    = c.notices.countP Notice.isError
      + (completions c hs).countP fun key => key.2.isTold
  noViolation : ∀ key ∈ completions c hs, key.2 ≠ .validationError

namespace Counted

variable {c : Console} {hs : List Happening}

/-- A happening that completes no request leaves all that is counted and
told. -/
theorem cons_of_not_completed {h : Happening}
    (hnone : h.completed? c = none) (hrest : Counted (h.apply c) hs) :
    Counted c (h :: hs) := by
  obtain ⟨htally, hnotices⟩ := Happening.apply_of_not_completed hnone
  refine ⟨?_, ?_, ?_⟩
  · intro key
    rw [replay_cons, hrest.counters, completions_of_not_completed hnone,
      htally]
  · rw [replay_cons, hrest.errors, completions_of_not_completed hnone,
      hnotices]
  · rw [completions_of_not_completed hnone]
    exact hrest.noViolation

/-- One that completes a request adds it to the counter of its key, and
leaves all others. -/
theorem cons_settled {call : Call} {token : Option String} {reply : Reply}
    (hrest : Counted (c.settle call token reply).2 hs) :
    Counted c (.settled call token reply :: hs) := by
  have hone := settle_countedOnce c call token reply
  refine ⟨?_, ?_, ?_⟩
  · intro key
    have hkey := hone.counted key
    rw [replay_cons, completions_settled]
    refine (hrest.counters key).trans ?_
    rw [hkey]
    generalize (call.method, OutcomeLabel.of (c.settle call token reply).1)
      = done
    by_cases hdone : key = done
    · rw [if_pos hdone, hdone, List.count_cons_self]
      omega
    · rw [if_neg hdone, List.count_cons_of_ne (Ne.symm hdone)]
      rfl
  · rw [replay_cons, completions_settled, List.countP_cons]
    refine hrest.errors.trans ?_
    rw [hone.errors]
    cases OutcomeLabel.isTold _ with
    | true => simp only [Bool.toNat_true, if_true]; omega
    | false => simp
  · rw [completions_settled]
    intro key hkey
    rcases List.mem_cons.1 hkey with rfl | hkey
    · exact c.settle_label_ne_validation call token reply
    · exact hrest.noViolation key hkey

end Counted

/-- Along every trail, by one of the two at each happening. -/
theorem replay_counted (hs : List Happening) : ∀ c : Console,
    Counted c hs := by
  induction hs with
  | nil => intro c; exact ⟨fun _ => rfl, rfl, nofun⟩
  | cons h hs ih =>
      intro c
      cases h with
      | settled call token reply => exact .cons_settled (ih _)
      | acted a => exact .cons_of_not_completed rfl (ih _)
      | sent s => exact .cons_of_not_completed rfl (ih _)
      | signalled => exact .cons_of_not_completed rfl (ih _)
      | received => exact .cons_of_not_completed rfl (ih _)

-- ============================================================ broken rules

/-- What a list of broken rules makes a task result in, before anything is
sent. -/
def violated? {α : Type} : List Violation → Option (Except ApiError α)
  | [] => none
  | violations => some (.error (.validation violations))

theorem violated?_eq_some {α : Type} {vs : List Violation}
    {r : Except ApiError α} (h : violated? vs = some r) :
    ∃ v rest, vs = v :: rest ∧ r = .error (.validation (v :: rest)) := by
  cases vs with
  | nil => cases h
  | cons v rest => exact ⟨v, rest, rfl, (Option.some.inj h).symm⟩

/-- The result of a task that breaks a rule. -/
def Task.rejected? : (t : Task) → Option t.Result
  | .request e a => violated? (Console.bodyViolations e a)
  | .login c => violated? c.violations
  | .changePassword c => violated? c.violations
  | _ => none

/-- A task that breaks a rule does nothing else than say so. -/
theorem Task.job_of_rejected {t : Task} {r : t.Result}
    (h : t.rejected? = some r) : t.job = .done ⟨t, r⟩ := by
  unfold job
  cases t with
  | request e a =>
      obtain ⟨v, rest, hv, rfl⟩ := violated?_eq_some h
      show (Console.request e a).bind _ = _
      unfold Console.request
      rw [hv]
      rfl
  | login creds =>
      obtain ⟨v, rest, hv, rfl⟩ := violated?_eq_some h
      show (Console.login creds).bind _ = _
      unfold Console.login
      rw [hv]
      rfl
  | changePassword change =>
      obtain ⟨v, rest, hv, rfl⟩ := violated?_eq_some h
      show (Console.changePassword change).bind _ = _
      unfold Console.changePassword
      rw [hv]
      rfl
  | _ => cases h

namespace Workload

/-- A task that breaks a rule leaves a workload as it is, but for its
report, and nothing happens. -/
theorem begin_of_rejected (w : Workload Report) (name : String) {t : Task}
    {r : t.Result} (h : t.rejected? = some r) :
    w.step (.begin name t)
        = { w with jobs := w.jobs ++ [(name, .ended ⟨t, r⟩)] }
      ∧ w.stepTrail (.begin name t) = [] := by
  have hjob := Task.job_of_rejected h
  refine ⟨?_, ?_⟩
  · show w.begin name t.job = _
    rw [hjob]
    rfl
  · show t.job.trail _ _ = _
    rw [hjob]
    rfl

/-- A reply that nobody waits for completes nothing. -/
theorem deliverTrail_of_unknown {w : Workload Report} {number : Nat}
    (h : ∀ s ∈ w.outstanding, s.number ≠ number) (reply : Reply) :
    w.stepTrail (.reply number reply) = [] := by
  have hjobs : ∀ j ∈ w.jobs, j.2.awaits number = false := by
    intro j hj
    refine Bool.eq_false_iff.2 fun ha => ?_
    obtain ⟨s, hs, hn⟩ := Paused.awaits_iff.1 ha
    refine h s ?_ hn
    rw [outstanding_eq]
    exact List.mem_append_left _ (List.mem_flatMap.2 ⟨j, hj, hs⟩)
  have hreload : w.reloadAwaits number = false := by
    refine Bool.eq_false_iff.2 fun ha => ?_
    obtain ⟨p, hp, hawaits⟩ := (Option.any_eq_true _ _).1 ha
    obtain ⟨s, hs, hn⟩ := Paused.awaits_iff.1 hawaits
    exact h s ((reload_outstanding_sublist hp).subset hs) hn
  exact deliverTrail_of_none hreload hjobs reply

-- ================================================================ the runs

/-- Counters and notices of errors, in every run of a new console.

At every point of the run, the counter of a method and a label is the
number of requests that have completed with them, and as many errors have
been told as requests have completed with a label other than success and
expired session. Every completed request counts just once, under its
method and the label of its own outcome; whatever else happens counts and
tells nothing. The reply to a request under way completes it before
anything else happens, and a reply to none completes none. A task that
breaks a rule leaves everything as it is, and none is ever counted for
that. -/
theorem run_counts_requests (baseUrl : String) (storage : Storage)
    (ms : List Move) :
    let first := Console.start baseUrl storage
    let happened := (Console.fresh baseUrl storage).trail ms
    let last := (Console.fresh baseUrl storage).run ms
    last.console = replay first happened
      ∧ (∀ before behind, happened = before ++ behind →
          (∀ key, (replay first before).tally.count key
            = (completions first before).count key)
          ∧ (∀ m, (replay first before).tally.count (m, .validationError) = 0)
          ∧ (replay first before).notices.countP Notice.isError
            = (completions first before).countP fun key => key.2.isTold)
      ∧ (∀ before call token reply behind,
          happened = before ++ .settled call token reply :: behind →
          CountedOnce (replay first before)
            ((replay first before).settle call token reply))
      ∧ (∀ before h behind, happened = before ++ h :: behind →
          h.completed? (replay first before) = none →
          (h.apply (replay first before)).tally
              = (replay first before).tally
            ∧ (h.apply (replay first before)).notices
              = (replay first before).notices)
      ∧ (∀ s ∈ last.outstanding, ∀ reply, ∃ rest,
          (Console.fresh baseUrl storage).trail
              (ms ++ [.reply s.number reply])
            = happened ++ .settled s.call s.request.token reply :: rest)
      ∧ (∀ number, (∀ s ∈ last.outstanding, s.number ≠ number) →
          ∀ reply, (Console.fresh baseUrl storage).trail
            (ms ++ [.reply number reply]) = happened)
      ∧ ∀ name (t : Task) (r : t.Result), t.rejected? = some r →
          last.step (.begin name t)
              = { last with jobs := last.jobs ++ [(name, .ended ⟨t, r⟩)] }
            ∧ (Console.fresh baseUrl storage).trail
                (ms ++ [.begin name t]) = happened := by
  intro first happened last
  refine ⟨run_replay _ ms, ?_, ?_, ?_, ?_, ?_, ?_⟩
  · intro before behind _
    have hcounted := replay_counted before first
    have hkeys : ∀ key, (replay first before).tally.count key
        = (completions first before).count key :=
      fun key => (hcounted.counters key).trans (Nat.zero_add _)
    refine ⟨hkeys, ?_, hcounted.errors.trans (Nat.zero_add _)⟩
    intro m
    rw [hkeys]
    exact List.count_eq_zero.2 fun hmem => hcounted.noViolation _ hmem rfl
  · intro before call token reply behind _
    exact settle_countedOnce _ call token reply
  · intro before h behind _ hnone
    exact Happening.apply_of_not_completed hnone
  · intro s hs reply
    obtain ⟨rest, hrest⟩ := deliverTrail_of_outstanding
      (run_numbered baseUrl storage ms) hs reply
    refine ⟨rest, ?_⟩
    rw [trail_concat]
    exact congrArg (happened ++ ·) hrest
  · intro number hnumber reply
    rw [trail_concat, deliverTrail_of_unknown hnumber, List.append_nil]
  · intro name t r hr
    obtain ⟨hstep, htrail⟩ := begin_of_rejected last name hr
    refine ⟨hstep, ?_⟩
    rw [trail_concat, htrail, List.append_nil]

/-- A page counts the assets of a host, of which one listing fails and one
is not there; the other answers are no pages. -/
example :
    let w := (Console.fresh "http://localhost" (.memory [])).run
      [.begin "page" (.countAssets "h1"), .reply 0 (.response 502 []),
        .reply 3 (.response 404 []), .reply 3 .lost]
    w.console.tally = [((.get, .serverError), 1), ((.get, .notFound), 1)]
      ∧ w.console.notices = [⟨.error, Notice.serverError⟩,
        ⟨.error, Notice.notFound⟩] := by
  decide +kernel

end Workload
end SecurityConsole
