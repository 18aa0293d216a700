/-
A navigation, taken apart: what the guard does before it decides, how it
decides, and what comes after its decision. The jobs are equal to the ones
that run (`guard_eq`, `navigateTo_eq`), and each part has its rule.
-/
import SecurityConsole.Console.Navigation
import SecurityConsole.Proofs.Job.Ensures

namespace SecurityConsole.Console

open Route

variable {R : Console → Console → Prop} {W : Cause → Console → Prop}
  {x : Cause} {c : Console}

-- ================================================================== guard

/-- Show the title of the page of a route. -/
def showTitle (route : Definition) : Job Unit :=
  .read fun c =>
    .act (.title (pageTitle route c.site.displayName)) fun _ => .done ()

/-- Load the branding if it is missing, then show the title. -/
def showHead (route : Definition) : Job Unit :=
  .read fun c =>
    if c.needsBranding then initBranding.bind fun _ => showTitle route
    else showTitle route

/-- Whoever is signed in may proceed. -/
def enterSignedIn : Job Decision :=
  .read fun c =>
    if c.session.isAuthenticated then .done .proceed
    else .done (.redirect loginPath)

/-- See who may enter. -/
def decideEntry (route : Definition) : Job Decision :=
  .read fun c =>
    match route.access.decision? c.session.isAuthenticated with
    | some decision => .done decision
    | none => revalidate.bind fun _ => enterSignedIn

theorem guard_eq (route : Definition) :
    guard route = (showHead route).bind fun _ => decideEntry route := by
  unfold guard showHead
  show Job.read _ = Job.read _
  congr 1
  funext c
  show (if c.needsBranding then _ else _)
    = Job.bind (if c.needsBranding then _ else _) _
  cases c.needsBranding with
  | true => rfl
  | false => rfl

/-- Who may enter is decided by what is known, or after a check. -/
theorem decideEntry_ensures {route : Definition}
    {Q : Cause → Console → Decision → Prop}
    (hdecided : ∀ decision,
      route.access.decision? c.session.isAuthenticated = some decision →
      Q x c decision)
    (hasked : route.access.decision? c.session.isAuthenticated = none →
      (revalidate.bind fun _ => enterSignedIn).Ensures R W Q x c) :
    (decideEntry route).Ensures R W Q x c := by
  unfold decideEntry
  simp only [Job.Ensures]
  cases hd : route.access.decision? c.session.isAuthenticated with
  | some decision => exact hdecided decision hd
  | none => exact hasked hd

/-- Whoever holds a token after the check may proceed. -/
theorem enterSignedIn_ensures {Q : Cause → Console → Decision → Prop}
    (hin : ∀ held, c.session.token? = some held → Q x c .proceed)
    (hout : c.session.token? = none → Q x c (.redirect loginPath)) :
    enterSignedIn.Ensures R W Q x c := by
  unfold enterSignedIn
  simp only [Job.Ensures]
  by_cases h : c.session.isAuthenticated = true
  · rw [if_pos h]
    obtain ⟨held, hheld⟩ := Option.isSome_iff_exists.1 h
    exact hin held hheld
  · rw [if_neg h]
    exact hout (Option.not_isSome_iff_eq_none.1 h)

-- ============================================================ navigation

/-- What comes after the guard's decision on a match. -/
def enter (table : Table) (loader : Loader) (origin : String) (n : Nat)
    (target : String) (m : Match) :
    Decision → Job (Except NavigationError View)
  | .redirect next => navigateTo table loader origin n next
  | .proceed =>
    .read fun c => .act .load fun _ =>
      match loader c.loads m with
      | .ok view => .act (.visit target) fun _ => .done (.ok view)
      | .error failure =>
        match ViewFailure.detour? m.path failure with
        | some next => navigateTo table loader origin n next
        | none => .done (.error (.view failure))

/-- One hop of a navigation: to where the table leads, or to a route,
whose guard decides how it goes on. -/
theorem navigateTo_eq (table : Table) (loader : Loader) (origin : String)
    (n : Nat) (target : String) :
    navigateTo table loader origin (n + 1) target
      = match table.resolve target with
        | .redirect next => navigateTo table loader origin n next
        | .found m =>
          (guard m.route).bind
            (enter table loader origin n target m) := by
  rw [navigateTo]
  cases table.resolve target with
  | redirect next => rfl
  | found m => rfl

/-- A decision leads on to another target, or to the view, or to the reason
why there is none. -/
theorem enter_ensures {table : Table} {loader : Loader} {origin : String}
    {n : Nat} {target : String} {m : Match} {decision : Decision}
    {Q : Cause → Console → Except NavigationError View → Prop}
    (hnext : ∀ next d, d.session = c.session →
      (navigateTo table loader origin n next).Ensures R W Q x d)
    (hview : ∀ view, decision = .proceed → loader c.loads m = .ok view →
      Q x ((Act.visit target).apply (Act.load.apply c).2).2 (.ok view))
    (hfailure : ∀ failure, decision = .proceed →
      Q x (Act.load.apply c).2 (.error (.view failure))) :
    (enter table loader origin n target m decision).Ensures R W Q x c := by
  cases decision with
  | redirect next => exact hnext next c rfl
  | proceed =>
      unfold enter
      simp only [Job.Ensures]
      cases hl : loader c.loads m with
      | ok view => exact hview view rfl hl
      | error failure =>
          cases hd : ViewFailure.detour? m.path failure with
          | some next =>
              simp only [hd]
              exact hnext next _ rfl
          | none =>
              simp only [hd]
              exact hfailure failure rfl

end SecurityConsole.Console
