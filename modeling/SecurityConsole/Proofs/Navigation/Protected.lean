/-
Pages for members are reached only with a session that was just checked.

Whatever a navigation passes on its way, its last stretch begins with the
reply to a request that asked the server whose a token is, and ends at the
page (`navigateTo_arrives`). A token is held then; and if it is the one
that was asked about, the server has vouched for it, and the user it named
is the one held (`Checked`). With others at work in between it may be
another token; without them it is the one asked about (`Checked.alone`).
-/
import SecurityConsole.Proofs.Navigation.Steps
import SecurityConsole.Proofs.Run.Effects
import SecurityConsole.Proofs.Run.Promise
import SecurityConsole.Proofs.SignIn.Rules

namespace SecurityConsole

open Console (currentUserCall)
open Route (Table Loader View Match Definition Decision Access)

-- ================================================================ checking

/-- A session that is left by a stretch was checked: the stretch began with
the reply to a request that asked whose a token is. A token is held; if it
is that one, the server named the user that is held. -/
def Checked (R : Console → Console → Prop) (x : Cause) (s : Session) :
    Prop :=
  ∃ request reply asked held c d,
    x = .replied ⟨currentUserCall, request, reply⟩ d
      ∧ c.request? currentUserCall = some request
      ∧ request.token = some asked
      ∧ R c d
      ∧ d.session.token? = some held
      ∧ s.token? = some held
      ∧ (held = asked → ∃ v,
          Verdict.ofReply currentUserCall reply = .answered v
            ∧ s.user? = some (SessionUser.ofValue v))

/-- A view was reached: the last location visited leads to it, and if it is
for members, something is known. -/
def Reached (table : Table) (loader : Loader) (c : Console) (view : View)
    (known : Prop) : Prop :=
  ∃ (target : String) (m : Match) (loads : Nat),
    table.resolve target = .found m
      ∧ c.visits.getLast? = some target
      ∧ loader loads m = .ok view
      ∧ (m.route.access = .members → known)

theorem Reached.mono {table : Table} {loader : Loader} {c : Console}
    {view : View} {known known' : Prop}
    (h : Reached table loader c view known) (hk : known → known') :
    Reached table loader c view known' := by
  obtain ⟨target, m, loads, hm, hvisit, hload, hknown⟩ := h
  exact ⟨target, m, loads, hm, hvisit, hload, fun ha => hk (hknown ha)⟩

-- ================================================================== guard

section
variable {R : Console → Console → Prop}

/-- Only those who are signed in are asked for more, and only at pages for
members. -/
theorem Route.Access.decision?_members {access : Access} {signedIn : Bool}
    {decision : Decision} (ha : access = .members)
    (h : access.decision? signedIn = some decision) :
    decision ≠ .proceed := by
  subst ha
  cases signedIn with
  | true => cases h
  | false =>
      cases h
      intro hne
      cases hne

/-- What checking a token leaves, if a token is left. -/
theorem revalidate_checks (x : Cause) (c : Console) :
    Console.revalidate.Ensures R Unasked
      (fun x c _ => ∀ held, c.session.token? = some held →
        Checked R x c.session) x c := by
  refine Console.revalidate_ensures ?_ (fun _ _ => trivial) ?_ ?_ ?_
  · intro hnone held hheld
    rw [hnone] at hheld
    cases hheld
  · intro asked request reply d v htoken hr hd hv held hheld
    rw [Act.apply_session, Console.settle_of_answered d hv] at hheld ⊢
    have hheld' : d.session.token? = some held :=
      (Session.refreshUser_token? (s := d.session)).symm.trans hheld
    refine ⟨request, reply, asked, held, c, d, rfl, hr, ?_, hd, hheld',
      hheld, ?_⟩
    · exact (Console.request?_token hr).trans htoken
    · rintro rfl
      refine ⟨v, hv, ?_⟩
      exact congrArg Identity.user (Session.refreshUser_of_holds hheld')
  · -- what is left is another token than the one asked about
    intro asked request reply d htoken hr hd held hheld
    rw [Act.apply_session] at hheld ⊢
    obtain ⟨hexp, hsettled, hne⟩ := Session.expire_survivor hheld
    obtain ⟨-, hfound⟩ := Console.settle_survivor hsettled
    refine ⟨request, reply, asked, held, c, d, rfl, hr, ?_, hd, hfound,
      hheld, fun heq => absurd heq hne⟩
    exact (Console.request?_token hr).trans htoken
  · -- a lost check leaves nobody: the token asked about is still held
    intro asked htoken _ held hheld
    rw [Act.apply_session] at hheld
    obtain ⟨-, hsettled, hne⟩ := Session.expire_survivor hheld
    obtain ⟨-, hfound⟩ := Console.settle_survivor hsettled
    rw [htoken] at hfound
    cases hfound
    exact absurd rfl hne

/-- Whom the guard of a page for members lets proceed was checked. -/
theorem guard_checks (route : Definition) (x : Cause) (c : Console) :
    (Console.guard route).Ensures R Unasked
      (fun x c decision => decision = .proceed →
        route.access = .members → Checked R x c.session) x c := by
  rw [Console.guard_eq]
  refine Job.Ensures.bind ?_
  refine (Job.ensures_nothing (Console.showHead route) x c).mono ?_
  intro x c _ _
  refine Console.decideEntry_ensures ?_ fun _ => ?_
  · intro decision hd hproceed ha
    exact absurd hproceed (Route.Access.decision?_members ha hd)
  · refine Job.Ensures.bind ((revalidate_checks x c).mono ?_)
    intro x c _ hchecked
    refine Console.enterSignedIn_ensures ?_ ?_
    · intro held hheld _ _
      exact hchecked held hheld
    · intro _ hproceed
      cases hproceed

-- ============================================================= navigation

/-- What comes after the decision on a match, if what comes after other
decisions arrives. -/
theorem enter_arrives {table : Table} {loader : Loader} {origin : String}
    {n : Nat} {target : String} {m : Match} {decision : Decision}
    {x : Cause} {c : Console} (hm : table.resolve target = .found m)
    (hc : decision = .proceed → m.route.access = .members →
      Checked R x c.session)
    (hrest : ∀ next x c,
      (Console.navigateTo table loader origin n next).Ensures R Unasked
        (fun x c r => ∀ view, r = .ok view →
          Reached table loader c view (Checked R x c.session)) x c) :
    (Console.enter table loader origin n target m decision).Ensures R
      Unasked (fun x c r => ∀ view, r = .ok view →
        Reached table loader c view (Checked R x c.session)) x c := by
  refine Console.enter_ensures (fun next d _ => hrest next x d) ?_ ?_
  · intro loaded hproceed hl view hview
    cases hview
    refine ⟨target, m, c.loads, hm, ?_, hl, hc hproceed⟩
    exact List.getLast?_concat
  · intro failure _ view hview
    cases hview

/-- Whatever way a navigation takes, it arrives only at a page that it may
enter. -/
theorem navigateTo_arrives (table : Table) (loader : Loader)
    (origin : String) (n : Nat) : ∀ target x c,
      (Console.navigateTo table loader origin n target).Ensures R Unasked
        (fun x c r => ∀ view, r = .ok view →
          Reached table loader c view (Checked R x c.session)) x c := by
  induction n with
  | zero =>
      intro target x c view hview
      cases hview
  | succ n ih =>
      intro target x c
      rw [Console.navigateTo_eq]
      cases hm : table.resolve target with
      | redirect next => exact ih next x c
      | found m =>
          refine Job.Ensures.bind ((guard_checks m.route x c).mono ?_)
          intro x c decision hc
          exact enter_arrives hm hc ih

end

-- =================================================================== runs

/-- Navigations arrive only at pages that they may enter. -/
def Promise.arrival : Promise where
  waiting _ := Unasked
  ended _ x c report := ∀ table loader location view,
    report = ⟨.navigate table loader location, .ok view⟩ →
      Reached table loader c view (Checked Anyhow x c.session)
  loading := Unasked
  task t c := by
    refine Job.Ensures.bind ?_
    cases t with
    | navigate table loader location =>
        refine (navigateTo_arrives table loader location _ location _ c).mono
          ?_
        intro x c r harrived table' loader' location' view hview
        cases hview
        exact harrived view rfl
    | _ =>
        refine (Job.ensures_nothing _ _ c).mono ?_
        intro x c r _ table loader location view hview
        cases hview
  load c := Job.ensures_nothing _ _ c

/-- What is checked without others at work is the token that was asked
about. -/
theorem Checked.alone {σ : Type} {server : Server σ} {x : Cause}
    {c : Console} {s : Session} (h : Checked Eq x s)
    (hx : Cause.LedTo server (.begun c) x) :
    ∃ (token : String) (d : Console) (request : Request) (state : σ)
      (v : currentUserCall.answer.Value),
      d.request? currentUserCall = some request
        ∧ request.token = some token
        ∧ Verdict.ofReply currentUserCall (server state request).1
          = .answered v
        ∧ s.identity = ⟨some token, some (SessionUser.ofValue v)⟩ := by
  obtain ⟨request, reply, asked, held, d, _, rfl, hr, hasked, rfl, hfound,
    hheld, hsame⟩ := h
  -- nothing happened between request and reply
  have htoken : held = asked := by
    rw [Console.request?_token hr, hfound] at hasked
    exact Option.some.inj hasked
  obtain ⟨v, hv, huser⟩ := hsame htoken
  rcases hx with heq | ⟨e, found, state, heq, hs⟩
  · cases heq
  · cases heq
    refine ⟨held, d, request, state, v, hr, ?_, ?_, ?_⟩
    · rw [hasked, htoken]
    · rw [hs]
      exact hv
    · show Identity.mk s.token? s.user? = _
      rw [hheld, huser]

/-- A page for members is reached only with a session that was just
checked.

In every run of a new console, when a move ends a navigation with a view,
the last location visited leads to that view. If it is for members, the
move is the reply to a request of this navigation, sent with a token, of
the call that tells whose the token is; a token is held then; and if it is
the one that was sent, the reply names the user that is held. A
navigation that runs alone holds just the token that it sent. -/
theorem Workload.run_reaches_protected (baseUrl : String)
    (storage : Storage) (ms : List Move) (m : Move) (table : Table)
    (loader : Loader) (location : String) (view : View) :
    let w := (Console.fresh baseUrl storage).run ms
    let after := w.step m
    (∀ (i : Nat) (name : String),
      after.jobs[i]? = some (name,
        .ended ⟨.navigate table loader location, .ok view⟩) →
      (∀ r, w.jobs[i]? ≠ some (name, .ended r)) →
      Reached table loader after.console view
        (∃ (p : Paused Report) (s : Sent) (reply : Reply)
          (asked held : String),
          w.jobs[i]? = some (name, p) ∧ s ∈ p.outstanding
            ∧ m = .reply s.number reply
            ∧ s.call = currentUserCall ∧ s.request.token = some asked
            ∧ after.console.session.token? = some held
            ∧ (held = asked → ∃ v,
              Verdict.ofReply currentUserCall reply = .answered v
                ∧ after.console.session.user?
                  = some (SessionUser.ofValue v))))
    ∧ ∀ (σ : Type) (server : Server σ) (state : σ) (c : Console),
      let run := (Console.navigate table loader location).run server state c
      run.1 = .ok view →
      Reached table loader run.2.2 view
        (∃ (token : String) (d : Console) (request : Request) (state : σ)
          (v : currentUserCall.answer.Value),
          d.request? currentUserCall = some request
            ∧ request.token = some token
            ∧ Verdict.ofReply currentUserCall (server state request).1
              = .answered v
            ∧ run.2.2.session.identity
              = ⟨some token, some (SessionUser.ofValue v)⟩) := by
  intro w after
  have hkeeps : w.Keeps .arrival := run_keeps .arrival baseUrl storage ms
  refine ⟨?_, ?_⟩
  · intro i name hafter hbefore
    rcases ended_in_step hkeeps hafter hbefore with
      ⟨t, -, hended⟩ | ⟨t, p, s, reply, hm, hp, hs, -, hended⟩
    · -- a navigation that asks nobody does not reach a page for members
      refine (hended table loader location view rfl).mono ?_
      rintro ⟨_, _, _, _, _, _, hcause, -⟩
      cases hcause
    · refine (hended table loader location view rfl).mono ?_
      rintro ⟨request, reply', asked, held, c, d, hcause, -, hasked, -, -,
        hheld, hsame⟩
      obtain ⟨n, call, request'⟩ := s
      cases hcause
      exact ⟨p, _, reply, asked, held, hp, hs, hm, rfl, hasked, hheld,
        hsame⟩
  · intro σ server state c run hrun
    obtain ⟨y, hy, harrived⟩ := Job.run_ensures server state
      (navigateTo_arrives table loader location Console.routeLimit location
        (.begun c) c)
    exact (harrived view hrun).mono fun h => h.alone hy

/-- A navigation home, without branding, with a user that is vouched for. -/
example :
    let user : SessionUser := ⟨"alice", "admin"⟩
    let body := Json.obj [("code", .int 0), ("data", user.toJson)]
    let w := (Console.fresh "http://localhost"
        (.memory [(Session.tokenKey, "t1")])).run
      [.begin "home" (.navigate Route.consoleTable Route.staticViews "/"),
        .reply 0 .lost, .reply 1 (.response 200 (Text.encode body.print))]
    w.console.visits = ["/dashboard"]
      ∧ w.console.session.identity = ⟨some "t1", some user⟩ := by
  decide +kernel

end SecurityConsole
