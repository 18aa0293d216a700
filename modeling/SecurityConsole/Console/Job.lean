/-
Jobs: what the console does for a user, as a tree of steps. A job
reads the state, acts on it, and sends calls; it is told their outcomes
and goes on. Calls that are sent together are all on their way before
the first reply arrives.

A job can be run alone against a server (`Job.run`), or up to the next
place where it has to wait (`Job.advance`), so that others can go on in
between. Between two such places nobody else interferes.
-/
import SecurityConsole.Console.Transport

namespace SecurityConsole

-- ================================================================ actions

/-- What a job can do to the console by itself. -/
inductive Act where
  /-- Sign in with a token and its user. -/
  | establish (token : String) (user : SessionUser)
  /-- Replace the user of a token, if it is still held. -/
  | refreshUser (token : String) (user : SessionUser)
  /-- Sign out. -/
  | clear
  /-- End the session of a token, if it is still held. -/
  | expire (token : String)
  /-- Cache and show a branding. -/
  | brand (config : SiteConfig)
  /-- Set the title of the page. -/
  | title (text : String)
  /-- Go to a location. -/
  | visit (path : String)
  /-- Listen to signals. -/
  | listen
  /-- Count the loading of a view. -/
  | load
  deriving DecidableEq, Repr, Inhabited

namespace Act

/-- Act on the session; says whether anything was to be done. -/
def onSession (c : Console) (r : Bool × Session) : Bool × Console :=
  (r.1, { c with session := r.2 })

/-- Act on a console. -/
def apply (c : Console) : Act → Bool × Console
  | .establish token user =>
    (true, { c with session := c.session.establish token user })
  | .refreshUser token user => onSession c (c.session.refreshUser token user)
  | .clear => onSession c c.session.clear
  | .expire token => onSession c (c.session.expire token)
  | .brand config => (true, c.brand config)
  | .title text => (true, { c with head := c.head.setTitle text })
  | .visit path => (true, c.visit path)
  | .listen => (true, c.listen)
  | .load => (true, { c with loads := c.loads + 1 })

end Act

-- ================================================================== jobs

/-- The outcomes of calls that are sent together. -/
def Answers : List Call → Type
  | [] => Unit
  | call :: rest => call.Outcome × Answers rest

/-- A job with a result. -/
inductive Job (α : Type) where
  | done (result : α)
  | read (go : Console → Job α)
  | act (a : Act) (go : Bool → Job α)
  | calls (cs : List Call) (go : Answers cs → Job α)

namespace Job

/-- One job, and another that depends on its result. -/
def bind {α β : Type} : Job α → (α → Job β) → Job β
  | .done result, f => f result
  | .read go, f => .read fun c => (go c).bind f
  | .act a go, f => .act a fun b => (go b).bind f
  | .calls cs go, f => .calls cs fun as => (go as).bind f

instance : Monad Job where
  pure := .done
  bind := .bind

instance {α : Type} [Inhabited α] : Inhabited (Job α) := ⟨.done default⟩

/-- Ask the state of the console. -/
def ask {α : Type} (f : Console → α) : Job α := .read fun c => .done (f c)

/-- Do something; its result tells whether anything was to be done. -/
def perform (a : Act) : Job Bool := .act a .done

/-- Send one call. -/
def call (c : Call) : Job c.Outcome := .calls [c] fun as => .done as.1

end Job

-- ============================================================== in flight

/-- A call that was sent: it waits for the reply to a request, which has
a number, or it has ended. -/
inductive Slot (call : Call) where
  | pending (number : Nat) (request : Request)
  | settled (outcome : call.Outcome)

/-- Calls that were sent together. -/
def Slots : List Call → Type
  | [] => Unit
  | call :: rest => Slot call × Slots rest

namespace Slots

/-- The outcomes, once there is one for each call. -/
def answers? : {cs : List Call} → Slots cs → Option (Answers cs)
  | [], _ => some ()
  | _ :: _, (.settled outcome, rest) => (answers? rest).map (outcome, ·)
  | _ :: _, (.pending _ _, _) => none

/-- The requests that wait for a reply, with their numbers. -/
def pending : {cs : List Call} → Slots cs → List (Nat × Request)
  | [], _ => []
  | _ :: _, (.settled _, rest) => pending rest
  | _ :: _, (.pending n r, rest) => (n, r) :: pending rest

/-- Send calls together. The requests are numbered on from `next`. A call
without a request is lost at once. -/
def send (next : Nat) (c : Console) : (cs : List Call) → Slots cs × Console
  | [] => ((), c)
  | call :: rest =>
    match c.request? call with
    | some request =>
      let (slots, c) := send (next + 1) c rest
      ((.pending next request, slots), c)
    | none =>
      let (outcome, c) := c.settle call c.session.token? .lost
      let (slots, c) := send next c rest
      ((.settled outcome, slots), c)

/-- Settle the call that waits for the reply to a numbered request. -/
def deliver (number : Nat) (reply : Reply) (c : Console) :
    {cs : List Call} → Slots cs → Slots cs × Console
  | [], _ => ((), c)
  | call :: _, (.pending n request, rest) =>
    if n = number then
      let (outcome, c) := c.settle call request.token reply
      ((.settled outcome, rest), c)
    else
      let (rest, c) := deliver number reply c rest
      ((.pending n request, rest), c)
  | _ :: _, (.settled outcome, rest) =>
    let (rest, c) := deliver number reply c rest
    ((.settled outcome, rest), c)

end Slots

/-- A job that ended, or that waits for replies. -/
inductive Paused (α : Type) where
  | ended (result : α)
  | waiting {cs : List Call} (slots : Slots cs) (go : Answers cs → Job α)

/-- Go on with a job until it ends or waits. The requests it sends are
numbered on from `next`. -/
def Job.advance {α : Type} (next : Nat) (c : Console) :
    Job α → Paused α × Console
  | .done result => (.ended result, c)
  | .read go => (go c).advance next c
  | .act a go =>
    let (b, c) := a.apply c
    (go b).advance next c
  | .calls cs go =>
    let (slots, c) := Slots.send next c cs
    match slots.answers? with
    | some as => (go as).advance next c
    | none => (.waiting slots go, c)

namespace Paused

variable {α : Type}

/-- The requests that wait for a reply, with their numbers. -/
def pending : Paused α → List (Nat × Request)
  | .ended _ => []
  | .waiting slots _ => slots.pending

/-- The result of a job that ended. -/
def result? : Paused α → Option α
  | .ended result => some result
  | .waiting .. => none

/-- Hand the reply to a numbered request to a job, and go on with it as
far as it gets. -/
def deliver (next number : Nat) (reply : Reply) (c : Console) :
    Paused α → Paused α × Console
  | .ended result => (.ended result, c)
  | .waiting slots go =>
    let (slots, c) := slots.deliver number reply c
    match slots.answers? with
    | some as => (go as).advance next c
    | none => (.waiting slots go, c)

end Paused

-- ================================================================== alone

/-- A server: it answers each request and may change by that. -/
abbrev Server (σ : Type) := σ → Request → Reply × σ

/-- Settle calls in the order they were sent, with the replies of a
server. -/
def Slots.settleAll {σ : Type} (server : Server σ) (s : σ) (c : Console) :
    {cs : List Call} → Slots cs → Answers cs × σ × Console
  | [], _ => ((), s, c)
  | _ :: _, (.settled outcome, rest) =>
    let (as, s, c) := rest.settleAll server s c
    ((outcome, as), s, c)
  | call :: _, (.pending _ request, rest) =>
    let (reply, s) := server s request
    let (outcome, c) := c.settle call request.token reply
    let (as, s, c) := rest.settleAll server s c
    ((outcome, as), s, c)

/-- Run a job alone: a server answers all requests at once. -/
def Job.run {σ α : Type} (server : Server σ) (s : σ) (c : Console) :
    Job α → α × σ × Console
  | .done result => (result, s, c)
  | .read go => (go c).run server s c
  | .act a go =>
    let (b, c) := a.apply c
    (go b).run server s c
  | .calls cs go =>
    let (slots, c) := Slots.send 0 c cs
    let (as, s, c) := slots.settleAll server s c
    (go as).run server s c

end SecurityConsole
