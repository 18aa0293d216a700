/-
Runs of one console: what it can be asked to do, and in what order things
can happen to it.

A `Task` is everything the console offers, from one call to a whole
navigation; its job ends with a report that names the task. A run is any
list of moves: a task is begun, a reply to a request under way comes, a
signal is sent, the listener looks for signals, or reports are taken.
Replies come in any order, and other tasks go on between any two requests
of a task; between its requests a task is not interrupted.
-/
import SecurityConsole.Console.Inventory
import SecurityConsole.Console.Navigation
import SecurityConsole.Console.Requests
import SecurityConsole.Console.Workload

namespace SecurityConsole

open Resource (Endpoint)
open Route (Table Loader View NavigationError Decision)

-- ================================================================== tasks

/-- What a console can be asked to do. -/
inductive Task where
  /-- Send a call as it is. -/
  | send (call : Call)
  /-- Call an endpoint, if the body keeps the rules. -/
  | request (e : Endpoint) (a : e.Arguments)
  | countAssets (host : String)
  | login (c : Credentials)
  | logout
  | revalidate
  | changePassword (c : PasswordChange)
  | loadBranding
  | initBranding
  | guard (route : Route.Definition)
  | navigate (table : Table) (loader : Loader) (location : String)
  /-- Change the console directly. -/
  | perform (a : Act)

namespace Task

/-- What a task results in. -/
def Result : Task → Type
  | .send call => call.Outcome
  | .request e a => (e.call a).Outcome
  | .countAssets _ => AssetCounts
  | .login _ => Except ApiError Grant
  | .changePassword _ => Except ApiError Unit
  | .guard _ => Decision
  | .navigate .. => Except NavigationError View
  | .perform _ => Bool
  | .logout | .revalidate | .loadBranding | .initBranding => Unit

/-- What is to be done for a task. -/
def body : (t : Task) → Job t.Result
  | .send call => Job.call call
  | .request e a => Console.request e a
  | .countAssets host => Console.countAssets host
  | .login c => Console.login c
  | .logout => Console.logout
  | .revalidate => Console.revalidate
  | .changePassword c => Console.changePassword c
  | .loadBranding => Console.loadBranding
  | .initBranding => Console.initBranding
  | .guard route => Console.guard route
  | .navigate table loader location =>
    Console.navigate table loader location
  | .perform a => Job.perform a

end Task

/-- A task and its result. -/
structure Report where
  task : Task
  result : task.Result

/-- The job of a task, which ends with a report of it. -/
def Task.job (t : Task) : Job Report :=
  t.body.bind fun r => .done ⟨t, r⟩

-- =================================================================== runs

/-- Something that can happen in a run. -/
inductive Move where
  | begin (name : String) (task : Task)
  | reply (number : Nat) (reply : Reply)
  | signal
  /-- The listener looks for signals. -/
  | listen
  /-- The reports of tasks that have ended are taken. -/
  | collect

namespace Workload

/-- The workload after a move. -/
def step (w : Workload Report) : Move → Workload Report
  | .begin name task => w.begin name task.job
  | .reply number reply => w.deliver number reply
  | .signal => w.signal
  | .listen => w.listen
  | .collect => w.collect.2

/-- The workload after moves, one after the other. -/
def run (w : Workload Report) (ms : List Move) : Workload Report :=
  ms.foldl step w

/-- A run may be cut anywhere: the later moves go on from where the
earlier ones end. -/
theorem run_append (w : Workload Report) (ms ns : List Move) :
    w.run (ms ++ ns) = (w.run ms).run ns :=
  List.foldl_append ..

/-- What holds at first, and is kept by every move, holds after every
run. -/
theorem run_induction {P : Workload Report → Prop} {w : Workload Report}
    (h : P w) (hstep : ∀ w m, P w → P (w.step m)) (ms : List Move) :
    P (w.run ms) := by
  induction ms generalizing w with
  | nil => exact h
  | cons m ms ih => exact ih (hstep w m h)

end Workload

/-- A new console on a storage, and nothing under way. -/
def Console.fresh (baseUrl : String) (storage : Storage) :
    Workload Report :=
  .idle (.start baseUrl storage)

end SecurityConsole
