/-
The way of a navigation.

What a navigation does at one target is a job of its own (`stopAt`): the
target leads on to another one, or the navigation ends there. `journeyTo`
makes one stop after the other, as `navigateTo` does, and notes the
targets that it was led on to (`journeyTo_result`). So a journey ends
with the load of the last target, or it was led on at every stop that it
was allowed (`journeyTo_ends`).

On the console's table a journey that nobody interferes with is short.
Each target has a rank, which depends on whether somebody is signed in,
and whatever leads on leads to a target of a lower rank (`stopAt_lowers`):
only somebody who is signed in is led away from the page to sign in, and
nobody is led there who still is. No rank is above four.
-/
import SecurityConsole.Proofs.Navigation.Steps
import SecurityConsole.Proofs.Run.Effects
import SecurityConsole.Proofs.SignIn.Rules

namespace SecurityConsole

-- =================================================================== jobs

namespace Job

variable {α β γ : Type}

theorem bind_assoc (j : Job α) (f : α → Job β) (g : β → Job γ) :
    (j.bind f).bind g = j.bind fun a => (f a).bind g := by
  induction j with
  | done result => rfl
  | read go ih => exact congrArg Job.read (funext ih)
  | act a go ih => exact congrArg (Job.act a) (funext ih)
  | calls cs go ih => exact congrArg (Job.calls cs) (funext ih)

/-- A job and another behind it: the second one runs from where the first
one ends. -/
theorem run_bind {σ : Type} (server : Server σ) (f : α → Job β)
    (j : Job α) : ∀ (s : σ) (c : Console),
      (j.bind f).run server s c
        = (f (j.run server s c).1).run server (j.run server s c).2.1
            (j.run server s c).2.2 := by
  induction j with
  | done result => intro s c; rfl
  | read go ih => intro s c; exact ih c s c
  | act a go ih => intro s c; exact ih _ s _
  | calls cs go ih => intro s c; exact ih _ _ _

/-- A job whose result is put in another form runs as it is. -/
theorem run_map {σ : Type} (server : Server σ) (f : α → β) (j : Job α)
    (s : σ) (c : Console) :
    (j.bind fun a => .done (f a)).run server s c
      = (f (j.run server s c).1, (j.run server s c).2) :=
  run_bind server _ j s c

end Job

open Route

namespace Console

-- ================================================================== stops

/-- What comes of a target: another one, or the end of the navigation. -/
inductive Stop where
  | onward (next : String)
  | final (result : Except ViewFailure View)

/-- What comes of a match behind the guard's decision. -/
def stopIn (loader : Loader) (target : String) (m : Match) :
    Decision → Job Stop
  | .redirect next => .done (.onward next)
  | .proceed =>
    .read fun c => .act .load fun _ =>
      match loader c.loads m with
      | .ok view => .act (.visit target) fun _ => .done (.final (.ok view))
      | .error failure =>
        match ViewFailure.detour? m.path failure with
        | some next => .done (.onward next)
        | none => .done (.final (.error failure))

/-- What comes of a target. -/
def stopAt (table : Table) (loader : Loader) (target : String) : Job Stop :=
  match table.resolve target with
  | .redirect next => .done (.onward next)
  | .found m => (guard m.route).bind (stopIn loader target m)

/-- The last load of a console gave a result for the match of a target,
and the result leads nowhere else. -/
def LoadedLast (table : Table) (loader : Loader) (target : String)
    (c : Console) (result : Except ViewFailure View) : Prop :=
  ∃ m loads, table.resolve target = .found m ∧ c.loads = loads + 1
    ∧ loader loads m = result
    ∧ ∀ failure, result = .error failure →
      ViewFailure.detour? m.path failure = none

section
variable {R : Console → Console → Prop} {W : Cause → Console → Prop}
  {table : Table} {loader : Loader} {target : String} {m : Match}
  {decision : Decision} {x : Cause} {c : Console}

/-- Behind a decision, what leads on is the decision itself or the failure
of a load; else the load was the last one. -/
theorem stopIn_ensures {Q : Cause → Console → Stop → Prop}
    (hm : table.resolve target = .found m)
    (hguard : ∀ next, decision = .redirect next → Q x c (.onward next))
    (hdetour : ∀ d failure next, decision = .proceed →
      d.session = c.session →
      ViewFailure.detour? m.path failure = some next → Q x d (.onward next))
    (hfinal : ∀ d result, LoadedLast table loader target d result →
      Q x d (.final result)) :
    (stopIn loader target m decision).Ensures R W Q x c := by
  cases decision with
  | redirect next => exact hguard next rfl
  | proceed =>
      unfold stopIn
      simp only [Job.Ensures]
      cases hl : loader c.loads m with
      | ok view =>
          exact hfinal _ _ ⟨m, c.loads, hm, rfl, hl, fun _ h => by cases h⟩
      | error failure =>
          cases hd : ViewFailure.detour? m.path failure with
          | some next =>
              simp only [hd]
              exact hdetour _ failure next rfl rfl hd
          | none =>
              simp only [hd]
              refine hfinal _ _ ⟨m, c.loads, hm, rfl, hl, fun _ h => ?_⟩
              cases h
              exact hd

/-- At a target, the table leads on, or the guard decides on the match. -/
theorem stopAt_ensures {Q : Cause → Console → Stop → Prop}
    (hredirect : ∀ next, table.resolve target = .redirect next →
      Q x c (.onward next))
    (hfound : ∀ m, table.resolve target = .found m →
      (guard m.route).Ensures R W
        (fun x c decision =>
          (stopIn loader target m decision).Ensures R W Q x c) x c) :
    (stopAt table loader target).Ensures R W Q x c := by
  unfold stopAt
  cases hm : table.resolve target with
  | redirect next => exact hredirect next hm
  | found m => exact Job.Ensures.bind (hfound m hm)

/-- What is final at a target is the result of the last load. -/
theorem stopAt_final :
    (stopAt table loader target).Ensures R Unasked
      (fun _ d stop => ∀ result, stop = .final result →
        LoadedLast table loader target d result) x c := by
  refine stopAt_ensures ?_ fun m hm => ?_
  · intro next _ result h
    cases h
  · refine (Job.ensures_nothing (guard m.route) x c).mono ?_
    intro x d decision _
    refine stopIn_ensures hm ?_ ?_ ?_
    · intro next _ result h
      cases h
    · intro d failure next _ _ _ result h
      cases h
    · intro d result hlast result' h
      cases h
      exact hlast

end

-- =============================================================== journeys

/-- A navigation that ended: the targets that it was led on to, and its
result. -/
structure Journey where
  redirects : List String
  result : Except NavigationError View

namespace Journey

/-- A journey with a target in front of those that it was led on to. -/
def behind (next : String) (j : Journey) : Journey :=
  { j with redirects := next :: j.redirects }

/-- The last target of a journey that began at one. -/
def last (target : String) (j : Journey) : String :=
  j.redirects.getLast?.getD target

theorem last_behind (target next : String) (j : Journey) :
    (j.behind next).last target = j.last next := by
  unfold last behind
  rw [List.getLast?_cons]
  rfl

end Journey

section
variable (table : Table) (loader : Loader) (origin : String)

/-- Navigate with a limit on the number of stops, and note where it
leads. -/
def journeyTo : Nat → String → Job Journey
  | 0, _ => .done ⟨[], .error (.redirectLoop origin)⟩
  | n + 1, target => (stopAt table loader target).bind fun
    | .onward next =>
      (journeyTo n next).bind fun j => .done (j.behind next)
    | .final result => .done ⟨[], result.mapError .view⟩

/-- Navigate to a location, and note where it leads. -/
def journey (location : String) : Job Journey :=
  journeyTo table loader location routeLimit location

/-- A journey is a navigation, apart from what it notes. -/
theorem journeyTo_result (n : Nat) : ∀ target,
    ((journeyTo table loader origin n target).bind fun j => .done j.result)
      = navigateTo table loader origin n target := by
  induction n with
  | zero => intro target; rfl
  | succ n ih =>
      intro target
      have hnext : ∀ next, (((journeyTo table loader origin n next).bind
          fun j => .done (j.behind next)).bind fun j => .done j.result)
          = navigateTo table loader origin n next := by
        intro next
        rw [Job.bind_assoc]
        exact ih next
      rw [navigateTo_eq, journeyTo, stopAt]
      cases table.resolve target with
      | redirect next => exact hnext next
      | found m =>
          show ((Job.bind (Job.bind _ _) _).bind _) = _
          rw [Job.bind_assoc, Job.bind_assoc]
          congr 1
          funext decision
          cases decision with
          | redirect next => exact hnext next
          | proceed =>
              unfold stopIn enter
              refine congrArg Job.read (funext fun c => ?_)
              refine congrArg (Job.act .load) (funext fun _ => ?_)
              cases loader c.loads m with
              | ok view => rfl
              | error failure =>
                  simp only
                  cases ViewFailure.detour? m.path failure with
                  | some next => exact hnext next
                  | none => rfl

theorem journey_run {σ : Type} (server : Server σ) (s : σ) (c : Console)
    (location : String) :
    let run := (journey table loader location).run server s c
    (navigate table loader location).run server s c
      = (run.1.result, run.2) := by
  intro run
  unfold navigate
  rw [← journeyTo_result, Job.run_map]
  rfl

/-- A journey ends with the load of its last target, or it was led on at
every stop. -/
theorem journeyTo_ends {R : Console → Console → Prop} (n : Nat) :
    ∀ target x c, (journeyTo table loader origin n target).Ensures R Unasked
      (fun _ d j => j.redirects.length = n
            ∧ j.result = .error (.redirectLoop origin)
          ∨ j.redirects.length < n
            ∧ ∃ result, LoadedLast table loader (j.last target) d result
              ∧ j.result = result.mapError .view) x c := by
  induction n with
  | zero => intro target x c; exact .inl ⟨rfl, rfl⟩
  | succ n ih =>
      intro target x c
      refine Job.Ensures.bind (stopAt_final.mono ?_)
      intro x d stop hfinal
      cases stop with
      | onward next =>
          refine Job.Ensures.bind ((ih next x d).mono ?_)
          rintro _ d j (⟨hlen, hloop⟩ | ⟨hlen, result, hlast, hresult⟩)
          · exact .inl ⟨congrArg (· + 1) hlen, hloop⟩
          · refine .inr ⟨Nat.succ_lt_succ hlen, result, ?_, hresult⟩
            rw [Journey.last_behind]
            exact hlast
      | final result =>
          exact .inr ⟨Nat.succ_pos n, result, hfinal result rfl, rfl⟩

/-- Whatever leads on, when nobody interferes, leads to a target of a lower
rank; ranks depend on whether somebody is signed in. -/
def Lowers (rank : Bool → String → Nat) : Prop :=
  ∀ target x c, (stopAt table loader target).Ensures Eq Unasked
    (fun _ d stop => ∀ next, stop = .onward next →
      rank d.session.isAuthenticated next
        < rank c.session.isAuthenticated target) x c

variable {table loader} {rank : Bool → String → Nat}

/-- A journey is no longer than the rank of the target that it begins
at. -/
theorem journeyTo_length (hlower : Lowers table loader rank) (n : Nat) :
    ∀ target x c, (journeyTo table loader origin n target).Ensures Eq Unasked
      (fun _ _ j => j.redirects.length
        ≤ rank c.session.isAuthenticated target) x c := by
  induction n with
  | zero => intro target x c; exact Nat.zero_le _
  | succ n ih =>
      intro target x c
      refine Job.Ensures.bind ((hlower target x c).mono ?_)
      intro x d stop hlower
      cases stop with
      | onward next =>
          refine Job.Ensures.bind ((ih next x d).mono ?_)
          intro _ _ j hlen
          exact Nat.lt_of_le_of_lt hlen (hlower next rfl)
      | final result => exact Nat.zero_le _

/-- A navigation with a rank that allows for its way ends with the load of
the last target that it was led on to. -/
theorem navigate_arrives (hlower : Lowers table loader rank) {σ : Type}
    (server : Server σ) (s : σ) (c : Console) (location : String)
    (hrank : rank c.session.isAuthenticated location < routeLimit) :
    let run := (navigate table loader location).run server s c
    ∃ (redirects : List String) (result : Except ViewFailure View),
      (journey table loader location).run server s c
          = (⟨redirects, run.1⟩, run.2)
        ∧ redirects.length ≤ rank c.session.isAuthenticated location
        ∧ LoadedLast table loader (redirects.getLast?.getD location)
          run.2.2 result
        ∧ run.1 = result.mapError .view := by
  intro run
  have hrun : run = _ := journey_run table loader server s c location
  obtain ⟨_, -, hends⟩ := Job.run_ensures server s
    (journeyTo_ends table loader location (R := Eq) routeLimit location
      (.begun c) c)
  obtain ⟨_, -, hlen⟩ := Job.run_ensures server s
    (journeyTo_length location hlower routeLimit location (.begun c) c)
  rw [hrun]
  rcases hends with ⟨hloop, -⟩ | ⟨-, result, hlast, hresult⟩
  · rw [hloop] at hlen
    exact absurd hrank (Nat.not_lt.2 hlen)
  · exact ⟨_, result, rfl, hlen, hlast, hresult⟩

end

end Console

-- ================================================================= routes

namespace Route
namespace Table

/-- A match has the path that it was found for. -/
theorem resolvePath_path {path : String} {m : Match} : ∀ {t : Table},
    t.resolvePath path = .found m → m.path = path := by
  intro t
  induction t with
  | nil => intro h; cases h
  | cons r rest ih =>
      intro h
      rw [resolvePath] at h
      cases hp : r.match? path with
      | none =>
          rw [hp] at h
          exact ih h
      | some params =>
          rw [hp] at h
          simp only [Definition.resolution] at h
          cases hr : r.redirect with
          | some next => rw [hr] at h; cases h
          | none =>
              rw [hr] at h
              cases h
              rfl

/-- A table leads on where one of its routes leads, or to the page for
locations that belong to none. -/
theorem resolvePath_redirect {path next : String} : ∀ {t : Table},
    t.resolvePath path = .redirect next →
      next = notFoundPath ∨ ∃ r ∈ t, r.redirect = some next := by
  intro t
  induction t with
  | nil => intro h; cases h; exact .inl rfl
  | cons r rest ih =>
      intro h
      rw [resolvePath] at h
      cases hp : r.match? path with
      | none =>
          rw [hp] at h
          refine (ih h).imp_right ?_
          rintro ⟨r', hmem, hr⟩
          exact ⟨r', List.mem_cons_of_mem r hmem, hr⟩
      | some params =>
          rw [hp] at h
          simp only [Definition.resolution] at h
          cases hr : r.redirect with
          | none => rw [hr] at h; cases h
          | some target =>
              rw [hr] at h
              cases h
              exact .inr ⟨r, List.mem_cons_self .., hr⟩

end Table

namespace Access

variable {access : Access} {signedIn : Bool}

/-- Whom what is known leads elsewhere. -/
theorem redirect_cases {next : String}
    (h : access.decision? signedIn = some (.redirect next)) :
    access = .guests ∧ signedIn = true ∧ next = homePath
      ∨ access = .members ∧ signedIn = false ∧ next = loginPath := by
  cases access with
  | guests =>
      cases signedIn with
      | true => cases h; exact .inl ⟨rfl, rfl, rfl⟩
      | false => cases h
  | members =>
      cases signedIn with
      | true => cases h
      | false => cases h; exact .inr ⟨rfl, rfl, rfl⟩
  | everyone => cases h

/-- Only pages for members need more than what is known. -/
theorem members_of_unknown (h : access.decision? signedIn = none) :
    access = .members := by
  cases access with
  | members => rfl
  | everyone => cases h
  | guests => cases signedIn <;> cases h

end Access
end Route

namespace Console

/-- The console leads on by itself only from home, and from locations that
belong to no page. -/
theorem consoleTable_redirect {target next : String}
    (h : consoleTable.resolve target = .redirect next) :
    next = notFoundPath ∨ next = dashboardPath := by
  have hall : ∀ r ∈ consoleTable, ∀ next, r.redirect = some next →
      next = dashboardPath := by
    decide
  refine (Table.resolvePath_redirect h).imp_right ?_
  rintro ⟨r, hmem, hr⟩
  exact hall r hmem next hr

/-- The page for views that cannot be fetched. -/
theorem consoleTable_serverError :
    consoleTable.resolvePath serverErrorPath
      = .found ⟨⟨"ServerError", serverErrorPath, some "Server Error",
          .everyone, none⟩, serverErrorPath, []⟩ := by
  decide +kernel

/-- A view that cannot be fetched leads on, unless it is the page that says
so. -/
theorem fetch_final {target reason : String} {m : Match}
    (hm : consoleTable.resolve target = .found m)
    (h : ViewFailure.detour? m.path (.moduleFetch reason) = none) :
    m.route.name = "ServerError" := by
  have hof := Table.resolvePath_path hm
  by_cases hpath : m.path = serverErrorPath
  · have hserver := consoleTable_serverError
    rw [← hpath, hof] at hserver
    cases (hm.symm.trans hserver)
    rfl
  · rw [ViewFailure.detour?, if_neg hpath] at h
    cases h

-- ================================================================== ranks

/-- How many more targets may follow, given whether somebody is signed
in. -/
def rankOf (signedIn : Bool) : Resolution → Nat
  | .redirect next => if next = dashboardPath then 3 else 2
  | .found m =>
    match m.route.access with
    | .guests => if signedIn then 4 else 1
    | .members => 2
    | .everyone => if m.path = serverErrorPath then 0 else 1

/-- How many more targets a target may lead to. -/
def rank (signedIn : Bool) (target : String) : Nat :=
  rankOf signedIn (consoleTable.resolve target)

theorem rankOf_le (signedIn : Bool) (r : Resolution) :
    rankOf signedIn r ≤ 4 := by
  unfold rankOf
  split
  · split <;> decide
  · split <;> first | decide | (split <;> decide)

/-- Where the targets lead that the console names itself. -/
theorem consoleTable_resolve :
    consoleTable.resolve homePath = .redirect dashboardPath
      ∧ consoleTable.resolve dashboardPath
        = .found ⟨page "Dashboard" dashboardPath "Security Overview",
            dashboardPath, []⟩
      ∧ consoleTable.resolve notFoundPath
        = .found ⟨⟨"NotFound", notFoundPath, some "Page Not Found",
            .everyone, none⟩, notFoundPath, []⟩
      ∧ consoleTable.resolve loginPath
        = .found ⟨⟨"Login", loginPath, some "Sign in", .guests, none⟩,
            loginPath, []⟩ := by
  decide +kernel

theorem rank_home (signedIn : Bool) : rank signedIn homePath = 3 := by
  obtain ⟨h, -, -, -⟩ := consoleTable_resolve
  rw [rank, h]
  rfl

theorem rank_dashboard (signedIn : Bool) :
    rank signedIn dashboardPath = 2 := by
  obtain ⟨-, h, -, -⟩ := consoleTable_resolve
  rw [rank, h]
  rfl

theorem rank_notFound (signedIn : Bool) :
    rank signedIn notFoundPath = 1 := by
  obtain ⟨-, -, h, -⟩ := consoleTable_resolve
  rw [rank, h]
  rfl

theorem rank_serverError (signedIn : Bool) :
    rank signedIn serverErrorPath = 0 := by
  have hpath : pathOf serverErrorPath = serverErrorPath := by decide
  rw [rank, Table.resolve, hpath, consoleTable_serverError]
  rfl

theorem rank_login : rank false loginPath = 1 := by
  obtain ⟨-, -, -, h⟩ := consoleTable_resolve
  rw [rank, h]
  rfl

/-- A target that the table leads on from. -/
theorem rank_of_redirect {target next : String}
    (h : consoleTable.resolve target = .redirect next) (was is : Bool) :
    rank is next < rank was target := by
  have hrank : rank was target = if next = dashboardPath then 3 else 2 := by
    rw [rank, h]
    rfl
  rw [hrank]
  rcases consoleTable_redirect h with rfl | rfl
  · rw [rank_notFound]
    decide
  · rw [rank_dashboard]
    decide

/-- A match leads to the page for views that cannot be fetched only from
elsewhere. -/
theorem rank_of_detour {target next : String} {m : Match}
    {failure : ViewFailure} (h : consoleTable.resolve target = .found m)
    (hd : ViewFailure.detour? m.path failure = some next) (was is : Bool) :
    rank is next < rank was target := by
  cases failure with
  | render name reason => cases hd
  | moduleFetch reason =>
      by_cases hpath : m.path = serverErrorPath
      · rw [ViewFailure.detour?, if_pos hpath] at hd
        cases hd
      · rw [ViewFailure.detour?, if_neg hpath] at hd
        cases hd
        rw [rank_serverError, rank, h, rankOf, if_neg hpath]
        split
        · split <;> decide
        · decide
        · decide

theorem rank_of_members {target : String} {m : Match}
    (h : consoleTable.resolve target = .found m)
    (ha : m.route.access = .members) (was : Bool) :
    rank was target = 2 := by
  rw [rank, h, rankOf, ha]

theorem rank_of_guests {target : String} {m : Match}
    (h : consoleTable.resolve target = .found m)
    (ha : m.route.access = .guests) : rank true target = 4 := by
  rw [rank, h, rankOf, ha]
  rfl

-- ================================================================== guard

/-- Those who are signed out stay so, whatever is settled. -/
theorem settle_signedOut {c : Console} {call : Call} {token : Option String}
    {reply : Reply} (h : c.session.token? = none) :
    (c.settle call token reply).2.session.token? = none := by
  cases hs : (c.settle call token reply).2.session.token? with
  | none => rfl
  | some held =>
      obtain ⟨-, hheld⟩ := settle_survivor hs
      rw [h] at hheld
      cases hheld

section
variable {x : Cause} {c : Console}

/-- What comes before the guard decides signs nobody in. -/
theorem showHead_signedOut (route : Definition)
    (h : c.session.token? = none) :
    (showHead route).Ensures Eq Unasked
      (fun _ d _ => d.session.token? = none) x c := by
  have hlisten : (Act.listen.apply c).2.session.token? = none := by
    rw [Act.apply_session]
    exact h
  have hsettled : ∀ token reply, ((Act.listen.apply c).2.settle brandingCall
      token reply).2.session.token? = none :=
    fun _ _ => settle_signedOut hlisten
  unfold showHead
  simp only [Job.Ensures]
  cases c.needsBranding with
  | false => exact h
  | true =>
      refine Job.Ensures.bind (Job.Ensures.call ?_ fun _ => ?_)
      · intro request _
        refine ⟨trivial, ?_⟩
        rintro reply d rfl
        exact hsettled request.token reply
      · exact hsettled (Act.listen.apply c).2.session.token? .lost

/-- The guard of a console that is left alone leads those who were signed
in from pages for guests, and those who are not from pages for members. -/
theorem guard_decides (route : Definition) :
    (guard route).Ensures Eq Unasked
      (fun _ d decision => ∀ next, decision = .redirect next →
        route.access = .guests ∧ c.session.isAuthenticated = true
            ∧ next = homePath
          ∨ route.access = .members ∧ d.session.isAuthenticated = false
            ∧ next = loginPath) x c := by
  -- who is signed in when the guard decides was so before
  have hhead : (showHead route).Ensures Eq Unasked
      (fun _ d _ => d.session.isAuthenticated = true →
        c.session.isAuthenticated = true) x c := by
    cases hin : c.session.isAuthenticated with
    | true =>
        refine (Job.ensures_nothing (showHead route) x c).mono ?_
        intro _ _ _ _ _
        rfl
    | false =>
        have hout := Option.not_isSome_iff_eq_none.1 (ne_true_of_eq_false hin)
        refine (showHead_signedOut route hout).mono ?_
        intro _ d _ hd hin
        have hnone : d.session.isAuthenticated = false :=
          congrArg Option.isSome hd
        rw [hnone] at hin
        cases hin
  rw [guard_eq]
  refine Job.Ensures.bind (hhead.mono ?_)
  intro x d _ hkept
  refine decideEntry_ensures ?_ ?_
  · rintro _ hd next rfl
    rcases Access.redirect_cases hd with ⟨ha, hin, hnext⟩ | hout
    · exact .inl ⟨ha, hkept hin, hnext⟩
    · exact .inr hout
  · intro hd
    refine Job.Ensures.bind
      ((Job.ensures_nothing revalidate x d).mono ?_)
    intro x d _ _
    refine enterSignedIn_ensures ?_ ?_
    · intro held _ next h
      cases h
    · intro hout next h
      cases h
      exact .inr ⟨Access.members_of_unknown hd, congrArg Option.isSome hout,
        rfl⟩

end

-- ====================================================== the console's table

-- what follows goes by the ranks, not by the routes
attribute [local irreducible] consoleTable

/-- Whatever leads on leads to a lower rank. -/
theorem stopAt_lowers (loader : Loader) :
    Lowers consoleTable loader rank := by
  intro target x c
  refine stopAt_ensures ?_ fun m hm => ?_
  · rintro next hnext _ ⟨⟩
    exact rank_of_redirect hnext _ _
  · refine (guard_decides m.route).mono ?_
    intro x d decision hdecided
    refine stopIn_ensures hm ?_ ?_ ?_
    · rintro next hnext _ ⟨⟩
      rcases hdecided next hnext with ⟨ha, hin, rfl⟩ | ⟨ha, hout, rfl⟩
      · rw [hin, rank_home, rank_of_guests hm ha]
        decide
      · rw [hout, rank_login, rank_of_members hm ha]
        decide
    · rintro e failure next - - hdetour _ ⟨⟩
      exact rank_of_detour hm hdetour _ _
    · rintro e result - next ⟨⟩

/-- A navigation on the console's table arrives.

Whatever the console holds, whatever a server answers and however the views
load: a navigation that nobody interferes with is led on at most four
times. The last target is a page of the table, and the navigation ends with
the last load, which was for that page: with its view, with the failure of
a view that cannot be rendered, or with that of a view that cannot be
fetched, which must be the page that is shown for such views. So it is
never given up for the length of its way. -/
theorem navigate_console_arrives {σ : Type} (server : Server σ) (s : σ)
    (c : Console) (loader : Loader) (location : String) :
    let run := (navigate consoleTable loader location).run server s c
    ∃ (redirects : List String) (m : Match) (loads : Nat),
      (journey consoleTable loader location).run server s c
          = (⟨redirects, run.1⟩, run.2)
        ∧ redirects.length ≤ 4
        ∧ consoleTable.resolve (redirects.getLast?.getD location)
          = .found m
        ∧ run.2.2.loads = loads + 1
        ∧ ((∃ view, loader loads m = .ok view ∧ run.1 = .ok view)
          ∨ (∃ name reason, loader loads m = .error (.render name reason)
            ∧ run.1 = .error (.view (.render name reason)))
          ∨ ∃ reason, m.route.name = "ServerError"
            ∧ loader loads m = .error (.moduleFetch reason)
            ∧ run.1 = .error (.view (.moduleFetch reason)))
        ∧ ∀ origin, run.1 ≠ .error (.redirectLoop origin) := by
  intro run
  have hfour : rank c.session.isAuthenticated location ≤ 4 := rankOf_le _ _
  obtain ⟨redirects, result, hjourney, hlen, hlast, hresult⟩ :=
    navigate_arrives (stopAt_lowers loader) server s c location
      (Nat.lt_of_le_of_lt hfour (by decide))
  obtain ⟨m, loads, hm, hloads, hload, hfinal⟩ := hlast
  refine ⟨redirects, m, loads, hjourney, Nat.le_trans hlen hfour, hm, hloads,
    ?_, ?_⟩
  · cases result with
    | ok view => exact .inl ⟨view, hload, hresult⟩
    | error failure =>
        cases failure with
        | render name reason =>
            exact .inr (.inl ⟨name, reason, hload, hresult⟩)
        | moduleFetch reason =>
            have hname := fetch_final hm (hfinal _ rfl)
            exact .inr (.inr ⟨reason, hname, hload, hresult⟩)
  · intro origin h
    cases result with
    | ok view => cases hresult.symm.trans h
    | error failure => cases hresult.symm.trans h

/-- Four redirects: somebody signed in goes to sign in and is led home, and
on to the dashboard; nobody vouches for the token any more; and the page to
sign in cannot be fetched. -/
example :
    let c := (Console.fresh "http://localhost"
      (.memory [(Session.tokenKey, "t1")])).console
    let loader := viewsExcept [("Login", .moduleFetch "offline")]
    let run := (journey consoleTable loader loginPath).run
      (fun (s : Unit) _ => (.lost, s)) () c
    run.1.redirects = ["/", "/dashboard", "/login", "/500"]
      ∧ run.1.result.toOption = some ⟨"ServerError", "/500", []⟩ := by
  decide +kernel

end Console
end SecurityConsole
