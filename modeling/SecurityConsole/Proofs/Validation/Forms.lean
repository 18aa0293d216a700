/-
Forms that are checked before they are sent.

Three things that a user fills in have rules of their own: credentials, a
change of the password, and a new account. A form that breaks a rule is
answered on the spot with all that is wrong with it, and nothing else
happens (`Form.job_of_faults`). One that breaks none becomes a call
(`Form.job_of_faultless`), and a call is sent if its address and the token
held can be written. So whether a request leaves does not hang on the rules
alone: a token with a line end keeps every form back
(`line_end_keeps_forms_back`). Whatever becomes of a form, what was under
way before goes on as it was (`forms_are_checked`).
-/
import Mathlib.Data.List.Forall2
import SecurityConsole.Proofs.Resource.Ids
import SecurityConsole.Proofs.Run.Batch
import SecurityConsole.Proofs.SignIn.Rules

namespace SecurityConsole

open Resource
open Console (loginCall passwordCall)

theorem Resource.createUser_mem : createUser ∈ endpoints := by
  simp [endpoints, users]

-- ================================================================= checks

/-- What is wrong, by checks that were passed or not. -/
def faultsOf (checks : List (Bool × Violation)) : List Violation :=
  (checks.filter (!·.1)).map (·.2)

/-- The rules that a request breaks are the checks that it does not
pass. -/
theorem Validation.violations_eq {rules : List (String × Constraint)}
    {request : List (String × Json)} {checks : List (Bool × Violation)}
    (h : List.Forall₂ (fun rule x =>
      Validation.check request rule = if x.1 then none else some x.2)
      rules checks) :
    Validation.violations rules request = faultsOf checks := by
  induction h with
  | nil => rfl
  | @cons rule x rules checks hx _ ih =>
      obtain ⟨passed, violation⟩ := x
      unfold Validation.violations at ih ⊢
      cases passed with
      | true =>
          rw [List.filterMap_cons_none hx, ih]
          rfl
      | false =>
          rw [List.filterMap_cons_some hx, ih]
          rfl

-- ================================================================== forms

/-- What a user fills in and has rules of its own. -/
inductive Form where
  | signIn (c : Credentials)
  | passwordChange (c : PasswordChange)
  | newAccount (account : newUser.Value)

namespace Form

/-- The checks of a form: whether each is passed, and what is wrong
otherwise. -/
def checks : Form → List (Bool × Violation)
  | .signIn c =>
    [(1 ≤ c.username.length,
        ⟨"username", "length", some "username is required"⟩),
     (1 ≤ c.password.length,
        ⟨"password", "length", some "password is required"⟩)]
  | .passwordChange c =>
    [(1 ≤ c.old.length,
        ⟨"old_password", "length", some "old password is required"⟩),
     (1 ≤ c.new.length,
        ⟨"new_password", "length", some "new password is required"⟩)]
  | .newAccount (username, password, email, _) =>
    [(1 ≤ String.length username,
        ⟨"username", "length", some "username is required"⟩),
     (6 ≤ String.length password,
        ⟨"password", "length",
          some "password must be at least 6 characters"⟩),
     (Option.all Validation.isEmail email, ⟨"email", "email", none⟩)]

/-- What is wrong with a form. -/
def faults (f : Form) : List Violation := faultsOf f.checks

/-- What is done with a form. -/
def task : Form → Task
  | .signIn c => .login c
  | .passwordChange c => .changePassword c
  | .newAccount account => .request createUser ⟨(), (), account⟩

/-- The call that a form is sent as. -/
def call : Form → Call
  | .signIn c => loginCall c
  | .passwordChange c => passwordCall c
  | .newAccount account => createUser.call ⟨(), (), account⟩

/-- The report of a form that failed. -/
def failed (e : ApiError) : Form → Report
  | .signIn c => ⟨.login c, .error e⟩
  | .passwordChange c => ⟨.changePassword c, .error e⟩
  | .newAccount account =>
    ⟨.request createUser ⟨(), (), account⟩, .error e⟩

theorem violations_signIn (c : Credentials) :
    c.violations = (signIn c).faults :=
  Validation.violations_eq (.cons rfl (.cons rfl .nil))

theorem violations_passwordChange (c : PasswordChange) :
    c.violations = (passwordChange c).faults :=
  Validation.violations_eq (.cons rfl (.cons rfl .nil))

theorem violations_newAccount (account : newUser.Value) :
    Console.bodyViolations createUser ⟨(), (), account⟩
      = (newAccount account).faults := by
  obtain ⟨username, password, email, role, status, ⟨⟩⟩ := account
  refine Validation.violations_eq (.cons rfl (.cons rfl (.cons ?_ .nil)))
  -- the members in front of the address and behind it depend on what is set
  cases email <;> cases status <;> rfl

/-- A form with faults is answered with them, and nothing else is done. -/
theorem job_of_faults {f : Form} (h : f.faults ≠ []) :
    f.task.job = .done (f.failed (.validation f.faults)) := by
  obtain ⟨v, vs, hfaults⟩ := List.exists_cons_of_ne_nil h
  rw [hfaults]
  cases f with
  | signIn c =>
      show (Console.login c).bind _ = _
      rw [Console.login_of_invalid ((violations_signIn c).trans hfaults)]
      rfl
  | passwordChange c =>
      show (Console.changePassword c).bind _ = _
      unfold Console.changePassword
      rw [(violations_passwordChange c).trans hfaults]
      rfl
  | newAccount account =>
      show (Console.request createUser _).bind _ = _
      unfold Console.request
      rw [(violations_newAccount account).trans hfaults]
      rfl

/-- What is left to do with a form once its call has ended. A call that
failed is reported. -/
def Concludes (f : Form) (go : Answers [f.call] → Job Report) : Prop :=
  ∀ e, go (.error e, ()) = .done (f.failed e)

/-- A form without faults becomes a call. -/
theorem job_of_faultless {f : Form} (h : f.faults = []) :
    ∃ go, f.task.job = .calls [f.call] go ∧ f.Concludes go := by
  cases f with
  | signIn c =>
      refine ⟨fun as => (Console.signedIn c as.1).bind
        fun r => .done ⟨.login c, r⟩, ?_, fun e => rfl⟩
      show (Console.login c).bind _ = _
      rw [Console.login_of_valid ((violations_signIn c).trans h)]
      rfl
  | passwordChange c =>
      refine ⟨fun as => .done ⟨.changePassword c, as.1⟩, ?_, fun e => rfl⟩
      show (Console.changePassword c).bind _ = _
      unfold Console.changePassword
      rw [(violations_passwordChange c).trans h]
      rfl
  | newAccount account =>
      refine ⟨fun as => .done ⟨.request createUser ⟨(), (), account⟩, as.1⟩,
        ?_, fun e => rfl⟩
      show (Console.request createUser _).bind _ = _
      unfold Console.request
      rw [(violations_newAccount account).trans h]
      rfl

-- ================================================================ sending

/-- The address of a form can be written on every console whose own address
is a directory. -/
theorem address?_isSome {c : Console} {root : Url.Address}
    (hroot : c.Rooted root) (f : Form) :
    (c.address? f.call).isSome = true := by
  have hplace : ∃ collection names, collection ≠ ""
      ∧ Url.staysSegment collection.toList = true
      ∧ f.call.path.toList
        = Url.pathText ((collection :: names).map String.toList) := by
    cases f with
    | signIn c =>
        have hpath : "/auth/login".toList
            = Url.pathText (["auth", "login"].map String.toList) := by
          decide +kernel
        exact ⟨"auth", ["login"], by decide, by decide +kernel, hpath⟩
    | passwordChange c =>
        have hpath : "/auth/change-password".toList
            = Url.pathText (["auth", "change-password"].map
                String.toList) := by
          decide +kernel
        exact ⟨"auth", ["change-password"], by decide, by decide +kernel,
          hpath⟩
    | newAccount account =>
        have hpath : "/users".toList
            = Url.pathText (["users"].map String.toList) := by
          decide +kernel
        exact ⟨"users", [], by decide, by decide +kernel, hpath⟩
  obtain ⟨collection, names, hne, hstays, hpath⟩ := hplace
  obtain ⟨own, hown, -⟩ := Console.parse?_of_names hroot hne hstays hpath
  have hquery : f.call.query = none := by cases f <;> rfl
  unfold Console.address?
  rw [hown, hquery]
  rfl

section
variable {f : Form} {next : Nat} {c : Console}

/-- A form without faults is sent if its request can be written. -/
theorem advance_of_request {request : Request} (h : f.faults = [])
    (hr : c.request? f.call = some request) :
    ∃ p, f.task.job.advance next c = (p, c)
      ∧ p.outstanding = [⟨next, f.call, request⟩]
      ∧ f.task.job.trail next c = [.sent ⟨next, f.call, request⟩] := by
  obtain ⟨go, hjob, -⟩ := job_of_faultless h
  rw [hjob]
  exact ⟨_, Job.advance_call_of_some hr, rfl, Job.trail_call_of_some hr⟩

/-- A form without faults whose request cannot be written is lost. -/
theorem advance_of_none (h : f.faults = [])
    (hr : c.request? f.call = none) :
    f.task.job.advance next c
        = (.ended (f.failed .network),
            (c.settle f.call c.session.token? .lost).2)
      ∧ f.task.job.trail next c
        = [.settled f.call c.session.token? .lost] := by
  obtain ⟨go, hjob, hgo⟩ := job_of_faultless h
  have hlost : go ((c.settle f.call c.session.token? .lost).1, ())
      = .done (f.failed .network) := by
    rw [Console.settle_lost]
    exact hgo .network
  rw [hjob, Job.advance_call_of_none hr, Job.trail_call_of_none hr, hlost]
  exact ⟨rfl, rfl⟩

end

-- ============================================================== handing in

section
variable {w : Workload Report} {f : Form}

/-- A form with faults is answered with them; the rest stays as it is. -/
theorem step_of_faults (h : f.faults ≠ []) (name : String) :
    w.stepTrail (.begin name f.task) = []
      ∧ w.step (.begin name f.task)
        = { w with jobs := w.jobs
            ++ [(name, .ended (f.failed (.validation f.faults)))] } := by
  have hjob := job_of_faults h
  show f.task.job.trail w.next w.console = [] ∧ w.begin name f.task.job = _
  rw [hjob]
  exact ⟨rfl, rfl⟩

/-- A form without faults is on its way if its request can be written. -/
theorem step_of_request {request : Request} (h : f.faults = [])
    (hr : w.console.request? f.call = some request) (name : String) :
    w.stepTrail (.begin name f.task) = [.sent ⟨w.next, f.call, request⟩]
      ∧ (w.step (.begin name f.task)).console = w.console
      ∧ ∃ p, (w.step (.begin name f.task)).jobs = w.jobs ++ [(name, p)]
        ∧ p.outstanding = [⟨w.next, f.call, request⟩] := by
  obtain ⟨p, hadvance, hp, htrail⟩ := advance_of_request h hr
  exact ⟨htrail, congrArg Prod.snd hadvance, p,
    congrArg (fun r : Paused Report × Console => w.jobs ++ [(name, r.1)])
      hadvance, hp⟩

/-- A form without faults fails as lost if its request cannot be written. -/
theorem step_of_none (h : f.faults = [])
    (hr : w.console.request? f.call = none) (name : String) :
    w.stepTrail (.begin name f.task)
        = [.settled f.call w.console.session.token? .lost]
      ∧ (w.step (.begin name f.task)).jobs
        = w.jobs ++ [(name, .ended (f.failed .network))] := by
  obtain ⟨hadvance, htrail⟩ := advance_of_none h hr
  exact ⟨htrail,
    congrArg (fun r : Paused Report × Console => w.jobs ++ [(name, r.1)])
      hadvance⟩

end

/-- What comes of a form is decided by its rules, and by whether its request
can be written; and nothing else of what the console has under way is
touched.

A request is sent if no check fails and the request can be written; on a
console whose address is a directory, only a token that may not stand in a
header keeps it from that. A form with faults is answered with all of them,
and with nothing else: the console is the same, and nothing happens. The
endpoint that accounts are made at is one of the server's. -/
theorem forms_are_checked (w : Workload Report) (name : String) (f : Form) :
    let c := w.console
    let v := w.step (.begin name f.task)
    let trail := w.stepTrail (.begin name f.task)
    let sent := trail.filterMap Happening.sent?
    (sent ≠ [] ↔ f.faults = [] ∧ (c.request? f.call).isSome = true)
      ∧ ((c.request? f.call).isSome = true
        ↔ (c.address? f.call).isSome = true
          ∧ c.session.token?.all (Http.legalHeader ∘ Console.bearer) = true)
      ∧ (∀ root, c.Rooted root → (c.address? f.call).isSome = true)
      ∧ (f.faults ≠ [] → trail = []
        ∧ v = { w with jobs := w.jobs
          ++ [(name, .ended (f.failed (.validation f.faults)))] })
      ∧ (f.faults = [] → ∀ request, c.request? f.call = some request →
        trail = [.sent ⟨w.next, f.call, request⟩] ∧ v.console = c
          ∧ ∃ p, v.jobs = w.jobs ++ [(name, p)]
            ∧ p.outstanding = [⟨w.next, f.call, request⟩])
      ∧ (f.faults = [] → c.request? f.call = none →
        trail = [.settled f.call c.session.token? .lost]
          ∧ v.jobs = w.jobs ++ [(name, .ended (f.failed .network))])
      ∧ createUser ∈ endpoints := by
  intro c v trail sent
  refine ⟨?_, Console.request?_isSome_iff,
    fun root hroot => address?_isSome hroot f,
    fun hfaults => step_of_faults hfaults name,
    fun hfaults request hr => step_of_request hfaults hr name,
    fun hfaults hr => step_of_none hfaults hr name, createUser_mem⟩
  show (w.stepTrail (.begin name f.task)).filterMap Happening.sent? ≠ [] ↔ _
  by_cases hfaults : f.faults = []
  · cases hr : c.request? f.call with
    | some request =>
        rw [(step_of_request hfaults hr name).1]
        exact ⟨fun _ => ⟨hfaults, rfl⟩, fun _ => List.cons_ne_nil _ _⟩
    | none =>
        rw [(step_of_none hfaults hr name).1]
        exact ⟨fun h => absurd rfl h, fun h => Bool.noConfusion h.2⟩
  · rw [(step_of_faults hfaults name).1]
    exact ⟨fun h => absurd rfl h, fun h => absurd h.1 hfaults⟩

/-- A token with a line end: an account that breaks no rule is not sent, and
the connection is blamed. -/
theorem line_end_keeps_forms_back :
    let c := { Console.start "http://localhost/api/v1" default with
      session := ⟨⟨some "a\nb", none⟩, default⟩ }
    let f := Form.newAccount
      ("bob", "secret1", none, ⟨1, by decide⟩, none, ())
    let w : Workload Report := .idle c
    f.faults = []
      ∧ (w.stepTrail (.begin "create" f.task)).filterMap Happening.sent? = []
      ∧ (w.step (.begin "create" f.task)).jobs
        = [("create", .ended (f.failed .network))] := by
  intro c f w
  have hfaults : f.faults = [] := by decide +kernel
  have htoken : w.console.session.token?.all
      (Http.legalHeader ∘ Console.bearer) = false := by decide +kernel
  obtain ⟨htrail, hjobs⟩ := step_of_none hfaults
    (Console.request?_of_unwritable htoken f.call) "create"
  refine ⟨hfaults, ?_, hjobs⟩
  rw [htrail]
  rfl

end Form
end SecurityConsole
