/-
What a navigation leaves, whatever the table.

A navigation goes from place to place. At each one a target is resolved,
and then either it is led on, by the table, by the guard or because the
view's module could not be fetched (`Redirected`), or it is over
(`Ended`). There is no third way (`Place.onward_or_over`), and what is
left of a run is the run from the next place (`navigateTo_redirected`).
So a run is over within the limit, or it was led on that many times
(`navigateTo_cases`).

The guard leaves the title of the route it was asked about, with the name
that the site has then, and it visits nothing (`guard_leaves`). Only a
refused token visits, and the session is over then and not begun again on
the way. So the page to sign in is visited at most once on all the way
(`Passed.trans`), before the one visit of a navigation that arrives
(`navigate_leaves`).
-/
import SecurityConsole.Proofs.Branding.Loads
import SecurityConsole.Proofs.Navigation.Journey

namespace SecurityConsole

open Route

-- ================================================================ consoles

/-- What jobs leave that sign nobody in and go nowhere: no visit, or one of
the page to sign in, because the session was ended. -/
inductive Passed (c d : Console) : Prop where
  | quiet (hvisits : d.visits = c.visits)
      (hin : d.session.isAuthenticated = true →
        c.session.isAuthenticated = true)
  | sentAway (hvisits : d.visits = c.visits ++ [loginPath])
      (hin : c.session.isAuthenticated = true)
      (hout : d.session.isAuthenticated = false)

namespace Passed

variable {c d e : Console}

theorem refl (c : Console) : Passed c c := .quiet rfl id

/-- Nobody is sent away twice: that takes a session each time. -/
theorem trans (h : Passed c d) (k : Passed d e) : Passed c e := by
  cases h with
  | quiet hvisits hin =>
      cases k with
      | quiet hvisits' hin' =>
          exact .quiet (hvisits'.trans hvisits) fun he => hin (hin' he)
      | sentAway hvisits' hin' hout =>
          refine .sentAway ?_ (hin hin') hout
          rw [hvisits', hvisits]
  | sentAway hvisits hin hout =>
      have hgone : d.session.isAuthenticated = true → False := by
        rw [hout]
        nofun
      cases k with
      | quiet hvisits' hin' =>
          refine .sentAway (hvisits'.trans hvisits) hin ?_
          exact eq_false_of_ne_true fun he => hgone (hin' he)
      | sentAway _ hin' _ => exact absurd (hgone hin') id

/-- What settling a call leaves. -/
theorem settle (c : Console) (call : Call) (token : Option String)
    (reply : Reply) : Passed c (c.settle call token reply).2 := by
  have hvisits := c.settle_visits call token reply
  have hsession := c.settle_session call token reply
  cases hends : c.endsBy token reply with
  | false =>
      rw [hends] at hvisits hsession
      refine .quiet hvisits fun hin => ?_
      rwa [hsession] at hin
  | true =>
      rw [hends] at hvisits hsession
      refine .sentAway hvisits ?_ ?_
      · -- a session that is ended was one
        obtain ⟨-, htoken⟩ := Bool.and_eq_true_iff.1 hends
        obtain ⟨held, -, hheld⟩ := (Option.any_eq_true _ _).1 htoken
        exact Option.isSome_iff_exists.2 ⟨held, Session.holds_iff.1 hheld⟩
      · rw [hsession]
        rfl

/-- Only to sign in and to go somewhere leaves more. -/
theorem act (c : Console) {a : Act}
    (hestablish : ∀ token user, a ≠ .establish token user)
    (hvisit : ∀ path, a ≠ .visit path) : Passed c (a.apply c).2 := by
  refine .quiet ?_ ?_
  · rw [Act.apply_visits]
    cases a with
    | visit path => exact absurd rfl (hvisit path)
    | _ => exact List.append_nil _
  · rw [Act.apply_session]
    cases a with
    | establish token user => exact absurd rfl (hestablish token user)
    | refreshUser token user =>
        intro hin
        exact (congrArg Option.isSome Session.refreshUser_token?).symm.trans
          hin
    | clear => nofun
    | expire token =>
        rcases c.session.expire_cases token with heq | heq
        · simp only [Act.onto, heq]
          nofun
        · simp only [Act.onto, heq]
          exact id
    | _ => exact id

/-- The visits that are left. -/
theorem visits (h : Passed c d) :
    ∃ away, d.visits = c.visits ++ away
      ∧ (away = [] ∨ away = [loginPath]
        ∧ c.session.isAuthenticated = true
        ∧ d.session.isAuthenticated = false) := by
  cases h with
  | quiet hvisits _ => exact ⟨[], by rw [hvisits, List.append_nil], .inl rfl⟩
  | sentAway hvisits hin hout => exact ⟨_, hvisits, .inr ⟨rfl, hin, hout⟩⟩

end Passed

-- ================================================================== guard

namespace Console

/-- The page has the title of a route, with the name of the site. -/
def Titled (route : Definition) (c : Console) : Prop :=
  c.head.title = pageTitle route c.site.displayName

theorem Titled.settle {route : Definition} {c : Console}
    (h : Titled route c) (call : Call) (token : Option String)
    (reply : Reply) : Titled route (c.settle call token reply).2 := by
  unfold Titled
  rw [(settle_keeps c call token reply).2.2,
    (settle_keeps c call token reply).1]
  exact h

section
variable {x : Cause} {c : Console}

/-- The title is shown with the name that the site has once its branding
is loaded. -/
theorem showHead_leaves (route : Definition) (x : Cause) (c : Console) :
    (showHead route).Ensures Eq Unasked
      (fun _ d _ => Passed c d ∧ Titled route d) x c := by
  have htitle : ∀ d, Passed c d →
      Passed c ((Act.title (pageTitle route d.site.displayName)).apply d).2
        ∧ Titled route
          ((Act.title (pageTitle route d.site.displayName)).apply d).2 :=
    fun d hd => ⟨hd.trans (.act d nofun nofun), rfl⟩
  have hloaded : ∀ token reply config,
      let settled := ((Act.listen.apply c).2.settle brandingCall token
        reply).2
      Passed c ((Act.brand config).apply settled).2 := by
    intro token reply config settled
    have hlisten : Passed c (Act.listen.apply c).2 := .act c nofun nofun
    exact (hlisten.trans (.settle _ _ _ _)).trans
      (.act (a := .brand config) settled nofun nofun)
  unfold showHead
  simp only [Job.Ensures]
  cases c.needsBranding with
  | false => exact htitle c (.refl c)
  | true =>
      refine Job.Ensures.bind (Job.Ensures.call ?_ fun _ => ?_)
      · intro request _
        refine ⟨trivial, ?_⟩
        intro reply d hsame
        cases hsame
        exact htitle _ (hloaded request.token reply _)
      · exact htitle _ (hloaded _ .lost _)

/-- The guard leaves the title of the route, and no visit of its own. -/
theorem guard_leaves (route : Definition) (x : Cause) (c : Console) :
    (guard route).Ensures Eq Unasked
      (fun _ d _ => Passed c d ∧ Titled route d) x c := by
  rw [guard_eq]
  refine Job.Ensures.bind ((showHead_leaves route x c).mono ?_)
  intro x d _ hleft
  obtain ⟨hpassed, htitled⟩ := hleft
  have hsettled : ∀ token reply,
      Passed c (d.settle currentUserCall token reply).2
        ∧ Titled route (d.settle currentUserCall token reply).2 :=
    fun token reply => ⟨hpassed.trans (.settle d _ token reply),
      htitled.settle _ token reply⟩
  refine decideEntry_ensures (fun _ _ => ⟨hpassed, htitled⟩) fun _ => ?_
  have hchecked : revalidate.Ensures Eq Unasked
      (fun _ e _ => Passed c e ∧ Titled route e) x d := by
    refine revalidate_ensures (fun _ => ⟨hpassed, htitled⟩)
      (fun _ _ => trivial) ?_ ?_ ?_
    · intro token request reply _ v _ _ hsame _
      cases hsame
      obtain ⟨hp, ht⟩ := hsettled request.token reply
      exact ⟨hp.trans (.act _ nofun nofun), ht⟩
    · intro token request reply _ _ _ hsame
      cases hsame
      obtain ⟨hp, ht⟩ := hsettled request.token reply
      exact ⟨hp.trans (.act _ nofun nofun), ht⟩
    · intro token _ _
      obtain ⟨hp, ht⟩ := hsettled d.session.token? .lost
      exact ⟨hp.trans (.act _ nofun nofun), ht⟩
  refine Job.Ensures.bind (hchecked.mono ?_)
  intro x e _ he
  exact enterSignedIn_ensures (fun _ _ => he) fun _ => he

end

/-- What the guard of a console that is left alone leaves. -/
theorem guard_run {σ : Type} {server : Server σ} {s s' : σ} {c d : Console}
    {route : Definition} {decision : Decision}
    (h : (guard route).run server s c = (decision, s', d)) :
    Passed c d ∧ Titled route d := by
  obtain ⟨_, -, hleft⟩ :=
    Job.run_ensures server s (guard_leaves route (.begun c) c)
  rwa [h] at hleft

-- ================================================================= places

/-- The views of a loader are those of the matches, as they stand. -/
def Echoes (loader : Loader) : Prop :=
  ∀ loads m view, loader loads m = .ok view →
    view = ⟨m.route.name, m.path, m.params⟩

example : Echoes staticViews := fun _ _ _ h => (Except.ok.inj h).symm

/-- Where a navigation is: the target that it looks at, the state of the
server, and the console. -/
structure Place (σ : Type) where
  target : String
  state : σ
  console : Console

section
variable {σ : Type} (table : Table) (loader : Loader) (server : Server σ)

/-- A navigation is led on: by the table, by the guard, or because the
module of the view could not be fetched. -/
inductive Redirected (a : Place σ) : Place σ → Prop where
  | byTable {next : String} (h : table.resolve a.target = .redirect next) :
      Redirected a { a with target := next }
  | byGuard {m : Match} {next : String} {s : σ} {c : Console}
      (hm : table.resolve a.target = .found m)
      (hguard : (guard m.route).run server a.state a.console
        = (.redirect next, s, c)) :
      Redirected a ⟨next, s, c⟩
  | byFetch {m : Match} {reason : String} {s : σ} {c : Console}
      (hm : table.resolve a.target = .found m)
      (hguard : (guard m.route).run server a.state a.console
        = (.proceed, s, c))
      (hload : loader c.loads m = .error (.moduleFetch reason))
      (hpath : m.path ≠ serverErrorPath) :
      Redirected a ⟨serverErrorPath, s, { c with loads := c.loads + 1 }⟩

/-- A navigation is over: it arrives with a view, which is a visit, or the
view fails for good. -/
inductive Ended (a : Place σ) :
    Except NavigationError View × σ × Console → Prop where
  | view {m : Match} {view : View} {s : σ} {c : Console}
      (hm : table.resolve a.target = .found m)
      (hguard : (guard m.route).run server a.state a.console
        = (.proceed, s, c))
      (hload : loader c.loads m = .ok view) :
      Ended a (.ok view, s,
        { c with loads := c.loads + 1, visits := c.visits ++ [a.target] })
  | failure {m : Match} {failure : ViewFailure} {s : σ} {c : Console}
      (hm : table.resolve a.target = .found m)
      (hguard : (guard m.route).run server a.state a.console
        = (.proceed, s, c))
      (hload : loader c.loads m = .error failure)
      (hfinal : ViewFailure.detour? m.path failure = none) :
      Ended a (.error (.view failure), s, { c with loads := c.loads + 1 })

/-- A navigation is led on a number of times. -/
inductive Led : Nat → Place σ → Place σ → Prop where
  | here (a : Place σ) : Led 0 a a
  | onward {n : Nat} {a b d : Place σ}
      (h : Redirected table loader server a b) (hrest : Led n b d) :
      Led (n + 1) a d

end

section
variable {σ : Type} {table : Table} {loader : Loader} {server : Server σ}
  {a b : Place σ} {n : Nat}

/-- At every place a navigation is led on, or it is over. -/
theorem Place.onward_or_over (table : Table) (loader : Loader)
    (server : Server σ) (a : Place σ) :
    (∃ b, Redirected table loader server a b)
      ∨ ∃ result, Ended table loader server a result := by
  cases hm : table.resolve a.target with
  | redirect next => exact .inl ⟨_, .byTable hm⟩
  | found m =>
      cases hguard : (guard m.route).run server a.state a.console with
      | mk decision rest =>
      obtain ⟨s, c⟩ := rest
      cases decision with
      | redirect next => exact .inl ⟨_, .byGuard hm hguard⟩
      | proceed =>
          cases hload : loader c.loads m with
          | ok view => exact .inr ⟨_, .view hm hguard hload⟩
          | error failure =>
              cases failure with
              | render name reason =>
                  exact .inr ⟨_, .failure hm hguard hload rfl⟩
              | moduleFetch reason =>
                  by_cases hpath : m.path = serverErrorPath
                  · exact .inr ⟨_, .failure hm hguard hload (if_pos hpath)⟩
                  · exact .inl ⟨_, .byFetch hm hguard hload hpath⟩

/-- What comes of a match, from what the guard leaves. -/
theorem navigateTo_found {m : Match} {decision : Decision} {s : σ}
    {c : Console} (origin : String) (n : Nat)
    (hm : table.resolve a.target = .found m)
    (hguard : (guard m.route).run server a.state a.console
      = (decision, s, c)) :
    (navigateTo table loader origin (n + 1) a.target).run server a.state
        a.console
      = (enter table loader origin n a.target m decision).run server s c := by
  rw [navigateTo_eq, hm]
  show (Job.bind _ _).run _ _ _ = _
  rw [Job.run_bind, hguard]

/-- Whoever is led on goes on from the next place, with one resolution
less. -/
theorem navigateTo_redirected (origin : String) (n : Nat)
    (h : Redirected table loader server a b) :
    (navigateTo table loader origin (n + 1) a.target).run server a.state
        a.console
      = (navigateTo table loader origin n b.target).run server b.state
          b.console := by
  cases h with
  | byTable h => rw [navigateTo_eq, h]
  | byGuard hm hguard =>
      rw [navigateTo_found origin n hm hguard]
      rfl
  | @byFetch m reason s c hm hguard hload hpath =>
      have hdetour : ViewFailure.detour? m.path (.moduleFetch reason)
          = some serverErrorPath := if_neg hpath
      rw [navigateTo_found origin n hm hguard]
      simp only [enter, Job.run, hload, hdetour]
      rfl

/-- Where a navigation is over, its run is. -/
theorem navigateTo_ended (origin : String) (n : Nat)
    {result : Except NavigationError View × σ × Console}
    (h : Ended table loader server a result) :
    (navigateTo table loader origin (n + 1) a.target).run server a.state
      a.console = result := by
  cases h with
  | view hm hguard hload =>
      rw [navigateTo_found origin n hm hguard]
      simp only [enter, Job.run, hload]
      rfl
  | failure hm hguard hload hfinal =>
      rw [navigateTo_found origin n hm hguard]
      simp only [enter, Job.run, hload, hfinal]
      rfl

/-- Who is led on at every resolution is given up. -/
theorem navigateTo_led (origin : String) (h : Led table loader server n a b) :
    (navigateTo table loader origin n a.target).run server a.state a.console
      = (.error (.redirectLoop origin), b.state, b.console) := by
  induction h with
  | here a => rfl
  | onward h _ ih =>
      rw [navigateTo_redirected origin _ h]
      exact ih

/-- A navigation is over at a place that it is led to within the limit, or
it is led on at every resolution. -/
theorem navigateTo_cases (table : Table) (loader : Loader)
    (server : Server σ) (origin : String) (n : Nat) : ∀ a : Place σ,
    (∃ k b, k < n ∧ Led table loader server k a b
        ∧ Ended table loader server b
          ((navigateTo table loader origin n a.target).run server a.state
            a.console))
      ∨ ∃ b, Led table loader server n a b := by
  induction n with
  | zero => intro a; exact .inr ⟨a, .here a⟩
  | succ n ih =>
      intro a
      rcases a.onward_or_over table loader server with
        ⟨b, hb⟩ | ⟨result, hresult⟩
      · rw [navigateTo_redirected origin n hb]
        rcases ih b with ⟨k, d, hk, hled, hended⟩ | ⟨d, hled⟩
        · exact .inl ⟨k + 1, d, Nat.succ_lt_succ hk, .onward hb hled,
            hended⟩
        · exact .inr ⟨d, .onward hb hled⟩
      · rw [navigateTo_ended origin n hresult]
        exact .inl ⟨0, a, Nat.succ_pos n, .here a, hresult⟩

/-- To be led on is no visit. -/
theorem Redirected.passed (h : Redirected table loader server a b) :
    Passed a.console b.console := by
  cases h with
  | byTable _ => exact .refl a.console
  | byGuard _ hguard => exact (guard_run hguard).1
  | @byFetch m reason s c _ hguard _ _ =>
      exact (guard_run hguard).1.trans (.act (a := .load) c nofun nofun)

theorem Led.passed (h : Led table loader server n a b) :
    Passed a.console b.console := by
  induction h with
  | here a => exact .refl a.console
  | onward h _ ih => exact h.passed.trans ih

variable {result : Except NavigationError View × σ × Console}

/-- A view is that of the match that the guard let proceed. -/
theorem Ended.of_view {view : View}
    (h : Ended table loader server a result) (hview : result.1 = .ok view) :
    ∃ m s c, table.resolve a.target = .found m
      ∧ (guard m.route).run server a.state a.console = (.proceed, s, c)
      ∧ loader c.loads m = .ok view
      ∧ result.2.2 = { c with
          loads := c.loads + 1, visits := c.visits ++ [a.target] } := by
  cases h with
  | view hm hguard hload =>
      cases hview
      exact ⟨_, _, _, hm, hguard, hload, rfl⟩
  | failure _ _ _ _ => cases hview

/-- A failure is no visit, and none of a way that is too long. -/
theorem Ended.of_error {e : NavigationError}
    (h : Ended table loader server a result) (he : result.1 = .error e) :
    Passed a.console result.2.2 ∧ ∀ origin, e ≠ .redirectLoop origin := by
  cases h with
  | view _ _ _ => cases he
  | @failure m failure s c _ hguard _ _ =>
      cases he
      exact ⟨(guard_run hguard).1.trans (.act (a := .load) c nofun nofun),
        nofun⟩

end

/-- What a navigation leaves.

On any table, with any loader and any server, from any console: the
navigation resolves at most nine targets. It is over at the last of them,
or all of them led on.

With a view, the last target has a match that the guard let proceed and
whose view it is. The page has the title of its route, with the name that
the site has now. The last visit is of that target, as it stands; the only
one before it can be of the page to sign in, and then the session was
ended on the way. Without a view there is no visit but that. The
navigation is given up just when all nine targets led on, and says where
it began. -/
theorem navigate_leaves {σ : Type} (table : Table) (loader : Loader)
    (server : Server σ) (s : σ) (c : Console) (location : String) :
    let run := (navigate table loader location).run server s c
    let start : Place σ := ⟨location, s, c⟩
    ((∃ k last, k < routeLimit ∧ Led table loader server k start last
          ∧ Ended table loader server last run)
        ∨ ∃ last, Led table loader server routeLimit start last
          ∧ run = (.error (.redirectLoop location), last.state,
              last.console))
      ∧ (∀ view, run.1 = .ok view →
          ∃ k last m s' d away,
            k < routeLimit ∧ Led table loader server k start last
            ∧ table.resolve last.target = .found m
            ∧ (guard m.route).run server last.state last.console
              = (.proceed, s', d)
            ∧ loader d.loads m = .ok view
            ∧ (Echoes loader → view = ⟨m.route.name, m.path, m.params⟩)
            ∧ run.2.2.head.title = (match m.route.title with
              | some title => title ++ " - " ++ run.2.2.site.displayName
              | none => run.2.2.site.displayName)
            ∧ run.2.2.visits = c.visits ++ away ++ [last.target]
            ∧ (away = [] ∨ away = [loginPath]
              ∧ c.session.isAuthenticated = true
              ∧ run.2.2.session.isAuthenticated = false))
      ∧ (∀ e, run.1 = .error e →
          ∃ away, run.2.2.visits = c.visits ++ away
            ∧ (away = [] ∨ away = [loginPath]
              ∧ c.session.isAuthenticated = true
              ∧ run.2.2.session.isAuthenticated = false))
      ∧ ∀ origin, run.1 = .error (.redirectLoop origin)
          ↔ origin = location
            ∧ ∃ last, Led table loader server routeLimit start last := by
  intro run start
  have hgiven : ∀ last, Led table loader server routeLimit start last →
      run = (.error (.redirectLoop location), last.state, last.console) :=
    fun _ h => navigateTo_led location h
  have hcases : (∃ k last, k < routeLimit
        ∧ Led table loader server k start last
        ∧ Ended table loader server last run)
      ∨ ∃ last, Led table loader server routeLimit start last :=
    navigateTo_cases table loader server location routeLimit start
  refine ⟨?_, ?_, ?_, ?_⟩
  · exact hcases.imp_right fun ⟨last, h⟩ => ⟨last, h, hgiven last h⟩
  · intro view hview
    rcases hcases with ⟨k, last, hk, hway, hended⟩ | ⟨last, hway⟩
    · obtain ⟨m, s', d, hm, hguard, hload, hleft⟩ := hended.of_view hview
      obtain ⟨hpassed, htitled⟩ := guard_run hguard
      obtain ⟨away, hvisits, haway⟩ := (hway.passed.trans hpassed).visits
      refine ⟨k, last, m, s', d, away, hk, hway, hm, hguard, hload,
        fun hecho => hecho _ _ _ hload, ?_, ?_, ?_⟩
      · rw [hleft]
        exact htitled
      · rw [hleft]
        exact congrArg (· ++ [last.target]) hvisits
      · rw [hleft]
        exact haway
    · rw [hgiven last hway] at hview
      cases hview
  · intro e he
    rcases hcases with ⟨k, last, -, hway, hended⟩ | ⟨last, hway⟩
    · exact (hway.passed.trans (hended.of_error he).1).visits
    · rw [hgiven last hway]
      exact hway.passed.visits
  · intro origin
    constructor
    · intro hloop
      rcases hcases with ⟨k, last, -, -, hended⟩ | ⟨last, hway⟩
      · exact absurd rfl ((hended.of_error hloop).2 origin)
      · rw [hgiven last hway] at hloop
        cases hloop
        exact ⟨rfl, last, hway⟩
    · intro hgone
      obtain ⟨horigin, last, hway⟩ := hgone
      rw [hgiven last hway, horigin]

/-- A page for members, with a token that is refused before the page is
even asked for: the transport goes to the page to sign in, and so does the
navigation then. -/
example :
    let c := (Console.fresh "http://localhost"
      (.memory [(Session.tokenKey, "t1")])).console
    let run := (navigate consoleTable staticViews "/hosts?page=2").run
      (fun (s : Unit) _ => (.response 401 [], s)) () c
    run.2.2.visits = ["/login", "/login"]
      ∧ run.2.2.head.title = "Sign in - Matrix Cloud Security Platform"
      ∧ run.1.toOption = some ⟨"Login", "/login", []⟩ := by
  decide +kernel

end Console
end SecurityConsole
