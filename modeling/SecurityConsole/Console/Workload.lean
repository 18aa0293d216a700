/-
Several jobs of one console that go on in turns. A job runs until it
has to wait for a reply; then another may start, or a reply to any of the
requests under way may come. Beside the jobs stands the listener, which
loads the branding once for every signal it receives, one load after the
other.
-/
import SecurityConsole.Console.Branding

namespace SecurityConsole

/-- A console, and the jobs it has begun. -/
structure Workload (α : Type) where
  console : Console
  /-- The number of the next request. -/
  next : Nat
  /-- The jobs under way, by name. -/
  jobs : List (String × Paused α)
  /-- The load of the branding that the listener has begun. -/
  reload : Option (Paused Unit)

namespace Workload

variable {α : Type}

/-- A console with nothing to do. -/
def idle (console : Console) : Workload α := ⟨console, 0, [], none⟩

instance : Inhabited (Workload α) := ⟨idle default⟩

/-- The requests that wait for a reply, with their numbers. -/
def pending (w : Workload α) : List (Nat × Request) :=
  w.jobs.flatMap (·.2.pending) ++
    match w.reload with
    | some p => p.pending
    | none => []

/-- Whether a numbered request waits for a reply. -/
def awaits (w : Workload α) (number : Nat) : Bool :=
  w.pending.any (·.1 = number)

-- ================================================================== jobs

/-- The number of the request behind those that a job waits for. -/
def after {β : Type} (next : Nat) (p : Paused β) : Nat :=
  (p.pending.map (·.1 + 1)).foldl max next

/-- Begin a job under a name. -/
def begin (w : Workload α) (name : String) (t : Job α) : Workload α :=
  let (p, console) := t.advance w.next w.console
  { w with console, next := after w.next p, jobs := w.jobs ++ [(name, p)] }

/-- Take the jobs that have ended, with their results. -/
def collect (w : Workload α) : List (String × α) × Workload α :=
  (w.jobs.filterMap fun j => (j.2.result?).map (j.1, ·),
    { w with jobs := w.jobs.filter (·.2.result?.isNone) })

/-- Do something with the console in between. -/
def between {β : Type} (w : Workload α) (f : Console → β × Console) :
    β × Workload α :=
  let (b, console) := f w.console
  (b, { w with console })

-- =============================================================== listener

/-- Let the listener receive a signal, if it has nothing to do, and begin
the load for it. -/
def listenOnce (w : Workload α) : Workload α :=
  match w.reload, w.console.channel.bind Channel.receive? with
  | none, some channel =>
    let console := { w.console with channel := some channel }
    let (p, console) := Console.loadBranding.advance w.next console
    { w with
      console, next := after w.next p
      reload := if p.result?.isSome then none else some p }
  | _, _ => w

/-- What the listener has still to receive. -/
def backlog (w : Workload α) : Nat :=
  (w.console.channel.map Channel.backlog).getD 0

/-- Let the listener go on until it waits for a reply or has received
everything. -/
def listen (w : Workload α) : Workload α :=
  w.backlog.repeat listenOnce w

/-- The signal that the branding has changed. -/
def signal (w : Workload α) : Workload α :=
  { w with console := w.console.signal }

/-- Let the listener receive everything and load the branding each time
from a server. -/
def serveListener {σ : Type} (server : Server σ) :
    Nat → σ → Console → σ × Console
  | 0, s, c => (s, c)
  | n + 1, s, c =>
    match c.channel.bind Channel.receive? with
    | none => (s, c)
    | some channel =>
      let c := { c with channel := some channel }
      let ((), s, c) := Console.loadBranding.run server s c
      serveListener server n s c

/-- Let an idle listener handle all its signals with a server. -/
def serve {σ : Type} (server : Server σ) (s : σ) (w : Workload α) :
    σ × Workload α :=
  match w.reload with
  | some _ => (s, w)
  | none =>
    let (s, console) := serveListener server w.backlog s w.console
    (s, { w with console })

-- ================================================================ replies

/-- Hand a reply to the jobs; the one that waits for it goes on. -/
def deliverJobs {β : Type} (next number : Nat) (reply : Reply) (c : Console) :
    List (String × Paused β) → List (String × Paused β) × Console
  | [] => ([], c)
  | (name, p) :: rest =>
    if p.pending.any (·.1 = number) then
      let (p, c) := p.deliver next number reply c
      ((name, p) :: rest, c)
    else
      let (rest, c) := deliverJobs next number reply c rest
      ((name, p) :: rest, c)

/-- The reply to a numbered request. -/
def deliver (w : Workload α) (number : Nat) (reply : Reply) : Workload α :=
  match w.reload with
  | some p =>
    if p.pending.any (·.1 = number) then
      let (p, console) := p.deliver w.next number reply w.console
      let reload := if p.result?.isSome then none else some p
      { w with console, next := after w.next p, reload }.listen
    else deliverToJobs
  | none => deliverToJobs
where
  /-- The reply goes to one of the jobs. -/
  deliverToJobs : Workload α :=
    let (jobs, console) := deliverJobs w.next number reply w.console w.jobs
    { w with
      console, jobs
      next := jobs.foldl (fun n j => after n j.2) w.next }

end Workload

-- ============================================================== replacing

/-- A console, and those it has replaced, whose jobs may still be under
way. All share one storage, and number their requests together. -/
structure Succession (α : Type) where
  current : Workload α
  former : List (Workload α)

namespace Succession

variable {α : Type}

/-- A first console. -/
def first (console : Console) : Succession α := ⟨.idle console, []⟩

instance : Inhabited (Succession α) := ⟨first default⟩

/-- Put a new console in the place of the current one. -/
def restart (s : Succession α) : Succession α :=
  { current :=
      { Workload.idle s.current.console.restart with next := s.current.next }
    former := s.former ++ [{ s.current with reload := none }] }

/-- Do something with the current console. -/
def here {β : Type} (s : Succession α)
    (f : Workload α → β × Workload α) : β × Succession α :=
  let (b, current) := f s.current
  (b, { s with current })

/-- Hand a reply to a replaced console: it works on what the current one
shares with it. -/
def deliverFormer (number : Nat) (reply : Reply) (current : Workload α) :
    List (Workload α) → Option (Workload α × List (Workload α))
  | [] => none
  | w :: rest =>
    if w.awaits number then
      let shared := w.console.adopt current.console
      let w := { w with console := shared, next := current.next }
      let w := w.deliver number reply
      some ({ current with
        console := current.console.adopt w.console, next := w.next }, w :: rest)
    else
      (deliverFormer number reply current rest).map fun (c, ws) => (c, w :: ws)

/-- The reply to a numbered request; `none` if none waits for it. -/
def deliver? (s : Succession α) (number : Nat) (reply : Reply) :
    Option (Succession α) :=
  if s.current.awaits number then
    some { s with current := s.current.deliver number reply }
  else
    (deliverFormer number reply s.current s.former).map
      fun (current, former) => ⟨current, former⟩

/-- Take the jobs that have ended, with their results. -/
def collect (s : Succession α) : List (String × α) × Succession α :=
  let (here, current) := s.current.collect
  let there := s.former.map Workload.collect
  (here ++ there.flatMap (·.1), ⟨current, there.map (·.2)⟩)

end Succession
end SecurityConsole
