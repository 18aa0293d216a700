/-
Where the user of a session comes from, over a whole run.

A user is never held without a token, and the two were paired before: they
were read together at the start, or some move of the run paired just this
token with just this user (`step_identity`, `run_identity`). A reply about
a token that is no longer held pairs nothing (`not_pairs_of_stale`); it
leaves the identity, or nobody's.
-/
import SecurityConsole.Proofs.Identity.Attribution
import SecurityConsole.Proofs.Run.Promise

namespace SecurityConsole

open Console (loginCall currentUserCall)

/-- Every stretch of every job accounts for the identity that it leaves. -/
def Promise.attribution : Promise where
  waiting := Attributed
  ended t x c _ := Attributed t x c
  loading x c := x.found.Lessens c
  task := Task.attributed
  load c := Cause.lessening.loadBranding _ c (.refl c)

/-- A user that was read at the start was read with a token. -/
theorem Session.hydrate_user {storage : Storage} {user : SessionUser}
    (h : (hydrate storage).user? = some user) :
    ∃ token, (hydrate storage).identity = ⟨some token, some user⟩ := by
  unfold hydrate at h ⊢
  cases ht : (storage.get? tokenKey).filter (· ≠ "") with
  | some token =>
      rw [ht] at h
      exact ⟨token, congrArg (Identity.mk (some token)) h⟩
  | none =>
      rw [ht] at h
      cases hu : storage.get? userKey with
      | some text =>
          rw [hu] at h
          cases h
      | none =>
          rw [hu] at h
          cases h

namespace Workload

-- =================================================================== moves

/-- A move pairs a token with a user: directly, or by the reply to a
request under way that grants the token, or that carried it while it is
still held. -/
inductive Pairs (w : Workload Report) :
    Move → String → SessionUser → Prop where
  | establish (name token : String) (user : SessionUser) :
      Pairs w (.begin name (.perform (.establish token user))) token user
  | refresh (name token : String) (user : SessionUser)
      (hheld : w.console.session.token? = some token) :
      Pairs w (.begin name (.perform (.refreshUser token user))) token user
  | grant (n : Nat) (creds : Credentials) (request : Request)
      (reply : Reply) (v : (loginCall creds).answer.Value)
      (hs : ⟨n, loginCall creds, request⟩ ∈ w.outstanding)
      (h : Verdict.ofReply (loginCall creds) reply = .answered v) :
      Pairs w (.reply n reply) (Grant.ofValue v).token
        (Grant.ofValue v).user
  | vouch (n : Nat) (request : Request) (reply : Reply) (token : String)
      (v : currentUserCall.answer.Value)
      (hs : ⟨n, currentUserCall, request⟩ ∈ w.outstanding)
      (htoken : request.token = some token)
      (hheld : w.console.session.token? = some token)
      (h : Verdict.ofReply currentUserCall reply = .answered v) :
      Pairs w (.reply n reply) token (SessionUser.ofValue v)

variable {w : Workload Report} {t : Task} {token : String}
  {user : SessionUser}

/-- What a task supplies as it begins is paired by the move that begins
it. -/
theorem pairs_of_begun {name : String}
    (h : Supplies t (.begun w.console) token user) :
    w.Pairs (.begin name t) token user := by
  cases h with
  | establish _ _ _ ht =>
      subst ht
      exact .establish name token user
  | refresh _ _ _ ht hheld =>
      subst ht
      exact .refresh name token user hheld

/-- What it supplies on a reply is paired by the move that brings the
reply. -/
theorem pairs_of_replied {s : Sent} {reply : Reply} (hs : s ∈ w.outstanding)
    (h : Supplies t (.replied (s.answered reply) w.console) token user) :
    w.Pairs (.reply s.number reply) token user := by
  obtain ⟨n, call, request⟩ := s
  have h : Supplies t (.replied ⟨call, request, reply⟩ w.console) token
    user := h
  cases h with
  | grant creds _ _ _ v hv => exact .grant n creds request reply v hs hv
  | vouch _ _ _ _ v htoken hheld hv =>
      exact .vouch n request reply token v hs htoken hheld hv

-- ================================================================== a step

/-- A load of the listener supplies nobody. -/
theorem received_lessens (w : Workload Report) (channel : Channel) :
    w.console.Lessens (w.received channel).console :=
  (received_ensures .attribution w channel).reached

/-- The listener supplies nobody. -/
theorem listen_lessens (w : Workload Report) :
    w.console.Lessens w.listen.console := by
  refine listen_induction (P := fun v => w.console.Lessens v.console)
    (.refl _) fun v hv => ?_
  rcases v.listenOnce_cases with ⟨channel, -, -, hd⟩ | hd
  · rw [hd]
    exact hv.trans (received_lessens v channel)
  · rw [hd]
    exact hv

/-- A move leaves the identity, or nobody's, or one that it pairs. -/
theorem step_identity (hw : w.Keeps .attribution) (m : Move) :
    w.console.Lessens (w.step m).console ∨ ∃ token user,
      (w.step m).console.session.identity = ⟨some token, some user⟩
        ∧ w.Pairs m token user := by
  cases m with
  | begin name t =>
      have hbegun : Attributed t (.begun w.console)
          (w.begin name t.job).console :=
        (begin_ensures .attribution w name t).reached
      rcases hbegun with h | ⟨token, user, hid, hs⟩
      · exact .inl h
      · exact .inr ⟨token, user, hid, pairs_of_begun hs⟩
  | reply number reply =>
      rcases reply_cases hw number reply with
        ⟨p, s, -, -, rfl, hload, hd⟩
          | ⟨before, name, p, behind, t, s, -, -, hs, rfl, hjob, hd⟩
          | ⟨hd, -, -⟩
      · refine .inl ?_
        show w.console.Lessens (w.deliver _ reply).console
        rw [hd]
        exact hload.reached.trans (listen_lessens _)
      · show w.console.Lessens (w.deliver _ reply).console ∨ ∃ token user,
          (w.deliver _ reply).console.session.identity = _ ∧ _
        rw [hd]
        have hreplied : Attributed t _ _ := hjob.reached
        rcases hreplied with h | ⟨token, user, hid, hsup⟩
        · exact .inl h
        · exact .inr ⟨token, user, hid, pairs_of_replied hs hsup⟩
      · exact .inl (.inl (congrArg (·.session.identity) hd))
  | signal => exact .inl (.refl _)
  | listen => exact .inl (listen_lessens w)
  | collect => exact .inl (.refl _)

-- =================================================================== a run

/-- A run leaves the identity, or nobody's, or one that a move of it
pairs. -/
theorem run_identity (ms : List Move) : ∀ w : Workload Report,
    w.Keeps .attribution →
    w.console.Lessens (w.run ms).console ∨ ∃ token user before m behind,
      (w.run ms).console.session.identity = ⟨some token, some user⟩
        ∧ ms = before ++ m :: behind ∧ (w.run before).Pairs m token user := by
  induction ms with
  | nil => intro w _; exact .inl (.refl _)
  | cons m ms ih =>
      intro w hw
      rcases ih (w.step m) (step_keeps hw m) with
        h | ⟨token, user, before, n, behind, hid, rfl, hp⟩
      · rcases step_identity hw m with hm | ⟨token, user, hid, hp⟩
        · exact .inl (hm.trans h)
        · rcases h with h | h
          · exact .inr ⟨token, user, [], m, ms, h.trans hid, rfl, hp⟩
          · exact .inl (.inr h)
      · exact .inr ⟨token, user, m :: before, n, behind, hid, rfl, hp⟩

/-- The two calls whose replies can pair are told apart by their
method. -/
theorem currentUserCall_ne_loginCall (creds : Credentials) :
    currentUserCall ≠ loginCall creds := by
  intro h
  have hmethod := congrArg Call.method h
  cases hmethod

/-- A reply about a token that is not held pairs nothing. -/
theorem not_pairs_of_stale (hw : w.Numbered) {n : Nat} {request : Request}
    {reply : Reply} {stale : String}
    (hs : ⟨n, currentUserCall, request⟩ ∈ w.outstanding)
    (hcarried : request.token = some stale)
    (hstale : w.console.session.token? ≠ some stale) :
    ¬ w.Pairs (.reply n reply) token user := by
  intro hp
  cases hp with
  | grant _ creds other _ v hother _ =>
      have hsame := Fresh.eq_of_number hw hs hother rfl
      exact currentUserCall_ne_loginCall creds (congrArg Sent.call hsame)
  | vouch _ other _ _ v hother htoken hheld _ =>
      have hsame := Fresh.eq_of_number hw hs hother rfl
      have hrequest : request = other := congrArg Sent.request hsame
      rw [hrequest, htoken] at hcarried
      cases hcarried
      exact hstale hheld

/-- A user that is held came with the token that is held.

In every run of a new console: whoever is held as the user is held with a
token, and the two were read together at the start or paired by a move of
the run. And a late reply about a token that is held no longer, whatever
it says, brings neither user nor token: the identity stays, or nobody's is
left. -/
theorem run_user_paired (baseUrl : String) (storage : Storage)
    (ms : List Move) :
    let w := (Console.fresh baseUrl storage).run ms
    (∀ user, w.console.session.user? = some user →
      ∃ token, w.console.session.token? = some token
        ∧ ((Session.hydrate storage).identity = ⟨some token, some user⟩
          ∨ ∃ before m behind, ms = before ++ m :: behind
            ∧ ((Console.fresh baseUrl storage).run before).Pairs m token
                user))
    ∧ ∀ n request reply stale,
        ⟨n, currentUserCall, request⟩ ∈ w.outstanding →
        request.token = some stale →
        w.console.session.token? ≠ some stale →
        w.console.Lessens (w.step (.reply n reply)).console := by
  intro w
  have hkeeps := run_keeps .attribution baseUrl storage
  refine ⟨?_, ?_⟩
  · intro user huser
    rcases run_identity ms _ (hkeeps []) with
      (h | h) | ⟨token, user', before, m, behind, hid, hsplit, hp⟩
    · have hold : (Session.hydrate storage).user? = some user :=
        (congrArg Identity.user h).symm.trans huser
      obtain ⟨token, htoken⟩ := Session.hydrate_user hold
      exact ⟨token, (congrArg Identity.token h).trans
        (congrArg Identity.token htoken), .inl htoken⟩
    · have hnone : w.console.session.user? = none :=
        congrArg Identity.user h
      rw [hnone] at huser
      cases huser
    · have hsame : some user' = some user :=
        (congrArg Identity.user hid).symm.trans huser
      cases hsame
      exact ⟨token, congrArg Identity.token hid,
        .inr ⟨before, m, behind, hsplit, hp⟩⟩
  · intro n request reply stale hs hcarried hstale
    rcases step_identity (hkeeps ms) (.reply n reply) with
      h | ⟨token, user, -, hp⟩
    · exact h
    · exact absurd hp (not_pairs_of_stale (run_numbered baseUrl storage ms)
        hs hcarried hstale)

end Workload
end SecurityConsole
