/-
What all tasks have in common.

Tasks are put together in a few ways: they read the console, but not its
storage, they send calls, they act, and one goes on behind another. What
holds of the parts, and is kept by these ways, holds of every task
(`Job.Family.task`). Three parts act in ways of their own and are left to
whoever proves a family: loading the branding, signing in, and checking a
token.
-/
import SecurityConsole.Proofs.Navigation.Steps

namespace SecurityConsole

/-- The console on another storage. -/
def Console.onStorage (c : Console) (storage : Storage) : Console :=
  { c with session := { c.session with storage } }

/-- Acts that neither sign in, nor change the user or the branding, nor
end the session of one token. -/
def Act.Plain : Act → Prop
  | .clear | .title _ | .visit _ | .listen | .load => True
  | .establish .. | .refreshUser .. | .expire _ | .brand _ => False

namespace Job

/-- A property of jobs that is kept by the ways in which tasks are put
together. -/
structure Family (P : {α : Type} → Job α → Prop) : Prop where
  done : ∀ {α : Type} (result : α), P (.done result)
  bind : ∀ {α β : Type} {j : Job α} {f : α → Job β},
    P j → (∀ r, P (f r)) → P (j.bind f)
  read : ∀ {α : Type} {go : Console → Job α},
    (∀ c storage, go (c.onStorage storage) = go c) → (∀ c, P (go c)) →
    P (.read go)
  calls : ∀ {α : Type} {cs : List Call} {go : Answers cs → Job α},
    (∀ as, P (go as)) → P (.calls cs go)
  act : ∀ {α : Type} {a : Act} {go : Bool → Job α},
    a.Plain → (∀ b, P (go b)) → P (.act a go)
  loadBranding : P Console.loadBranding
  login : ∀ creds : Credentials, P (Console.login creds)
  revalidate : P Console.revalidate

namespace Family

variable {P : {α : Type} → Job α → Prop}

/-- A single call is a batch of one, answered by its own outcome. -/
theorem call (h : Family P) (call : Call) : P (Job.call call) :=
  h.calls fun as => h.done as.1

/-- A single plain act is of the family. -/
theorem perform (h : Family P) {a : Act} (ha : a.Plain) :
    P (Job.perform a) :=
  h.act ha fun b => h.done b

/-- Listening is a plain act, and then the branding is loaded: there is
no third way in which the first load could act. -/
theorem initBranding (h : Family P) : P Console.initBranding :=
  h.bind (h.perform (a := .listen) trivial) fun _ => h.loadBranding

/-- Signing out: the call's outcome is thrown away, and the session is
cleared either way. -/
theorem logout (h : Family P) : P Console.logout :=
  h.bind (h.call _) fun _ =>
    h.bind (h.perform (a := .clear) trivial) fun _ => h.done ()

/-- A request to an endpoint is a call, unless its body breaks rules;
then nothing is sent and the job is over. -/
theorem request (h : Family P) (e : Resource.Endpoint) (a : e.Arguments) :
    P (Console.request e a) := by
  unfold Console.request
  cases Console.bodyViolations e a with
  | nil => exact h.call _
  | cons v vs => exact h.done _

/-- A change of the password is a call, unless it breaks rules. -/
theorem changePassword (h : Family P) (p : PasswordChange) :
    P (Console.changePassword p) := by
  unfold Console.changePassword
  cases p.violations with
  | nil => exact h.call _
  | cons v vs => exact h.done _

/-- Showing the head of a page loads the branding first if none is
cached, and then sets the title. Both readings of the console are of its
branding, which no storage touches. -/
theorem showHead (h : Family P) (route : Route.Definition) :
    P (Console.showHead route) := by
  have htitle : P (Console.showTitle route) :=
    h.read (fun _ _ => rfl) fun _ => h.act trivial fun _ => h.done ()
  refine h.read (fun _ _ => rfl) fun c => ?_
  cases c.needsBranding with
  | true => exact h.bind h.initBranding fun _ => htitle
  | false => exact htitle

/-- The decision of entry: by what is known, or by checking the token
and looking again. Neither look is at the storage. -/
theorem decideEntry (h : Family P) (route : Route.Definition) :
    P (Console.decideEntry route) := by
  have hsignedIn : P Console.enterSignedIn := by
    refine h.read (fun _ _ => rfl) fun c => ?_
    cases c.session.isAuthenticated with
    | true => exact h.done _
    | false => exact h.done _
  refine h.read (fun _ _ => rfl) fun c => ?_
  cases route.access.decision? c.session.isAuthenticated with
  | some decision => exact h.done decision
  | none => exact h.bind h.revalidate fun _ => hsignedIn

/-- The guard of a route shows the head of the page, and then
decides. -/
theorem guard (h : Family P) (route : Route.Definition) :
    P (Console.guard route) := by
  rw [Console.guard_eq]
  exact h.bind (h.showHead route) fun _ => h.decideEntry route

/-- A navigation, by induction on the hops that are left. Every way on
to a further target, be it a redirect of the table, one of the guard or
the detour behind a view that failed, has one hop less. -/
theorem navigateTo (h : Family P) (table : Route.Table)
    (loader : Route.Loader) (origin : String) (n : Nat) :
    ∀ target : String,
      P (Console.navigateTo table loader origin n target) := by
  induction n with
  | zero => intro target; exact h.done _
  | succ n ih =>
      intro target
      rw [Console.navigateTo_eq]
      cases table.resolve target with
      -- the table leads on
      | redirect next => exact ih next
      | found m =>
          refine h.bind (h.guard m.route) fun decision => ?_
          cases decision with
          -- the guard leads on
          | redirect next => exact ih next
          | proceed =>
              refine h.read (fun _ _ => rfl) fun c => ?_
              -- the route is entered: its view is loaded
              refine h.act trivial fun _ => ?_
              cases loader c.loads m with
              | ok view => exact h.act trivial fun _ => h.done _
              | error failure =>
                  cases hd : Route.ViewFailure.detour? m.path failure with
                  | some next =>
                      simp only [hd]
                      exact ih next
                  | none =>
                      simp only [hd]
                      exact h.done _

/-- Whatever is asked for, apart from acts, is of the family. -/
theorem task (h : Family P) (t : Task) (ht : ∀ a, t ≠ .perform a) :
    P t.job := by
  refine h.bind ?_ fun r => h.done _
  cases t with
  | send call => exact h.call call
  | request e a => exact h.request e a
  | countAssets host => exact h.calls fun as => h.done _
  | login creds => exact h.login creds
  | logout => exact h.logout
  | revalidate => exact h.revalidate
  | changePassword p => exact h.changePassword p
  | loadBranding => exact h.loadBranding
  | initBranding => exact h.initBranding
  | guard route => exact h.guard route
  | navigate table loader location =>
      exact h.navigateTo table loader location _ location
  | perform a => exact absurd rfl (ht a)

end Family
end Job
end SecurityConsole
