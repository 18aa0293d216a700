/-
The trail of a job: what happens to the console while the job goes on, one
thing after the other.

`Job.advance` and its kin give the console that a job leaves behind, not
the way there. The trail is that way: acts, requests that are sent, and
replies that are settled. It is defined beside the interpreter, with the
same recursion, and replaying it on the console from before gives the
console from behind (`advance_replay`, `deliver_replay`). So whatever
every single happening keeps, every job keeps, and what jobs do in
between can be counted along the trail.
-/
import SecurityConsole.Console.Job

namespace SecurityConsole

-- ============================================================= happenings

/-- A request under way, its number, and the call it was sent for. -/
structure Sent where
  number : Nat
  call : Call
  request : Request

/-- Something that happens to a console. -/
inductive Happening where
  | acted (a : Act)
  /-- A request leaves; nothing changes here. -/
  | sent (s : Sent)
  /-- The reply to a request that was sent with the token comes, or word
  that the call is lost. -/
  | settled (call : Call) (token : Option String) (reply : Reply)
  | signalled
  /-- The listener receives a signal. -/
  | received

/-- The console after a happening. -/
def Happening.apply (c : Console) : Happening → Console
  | .acted a => (a.apply c).2
  | .sent _ => c
  | .settled call token reply => (c.settle call token reply).2
  | .signalled => c.signal
  | .received =>
    match c.channel.bind Channel.receive? with
    | some channel => { c with channel := some channel }
    | none => c

/-- The console after happenings, one after the other. -/
def replay (c : Console) (hs : List Happening) : Console :=
  hs.foldl Happening.apply c

/-- Two stretches, one replayed behind the other. -/
theorem replay_append (c : Console) (hs ks : List Happening) :
    replay c (hs ++ ks) = replay (replay c hs) ks :=
  List.foldl_append ..

theorem replay_cons (c : Console) (h : Happening) (hs : List Happening) :
    replay c (h :: hs) = replay (h.apply c) hs := rfl

-- ================================================================ sending

namespace Slots

/-- A call whose request can be written takes the next number and
waits. -/
theorem send_cons_of_some {next : Nat} {c : Console} {call : Call}
    {rest : List Call} {request : Request}
    (h : c.request? call = some request) :
    send next c (call :: rest)
      = ((.pending next request, (send (next + 1) c rest).1),
          (send (next + 1) c rest).2) := by
  simp only [send, h]
  rfl

/-- A call whose request cannot be written is settled as lost, before
the next one is looked at. -/
theorem send_cons_of_none {next : Nat} {c : Console} {call : Call}
    {rest : List Call} (h : c.request? call = none) :
    send next c (call :: rest)
      = ((.settled (c.settle call c.session.token? .lost).1,
            (send next (c.settle call c.session.token? .lost).2 rest).1),
          (send next (c.settle call c.session.token? .lost).2 rest).2) := by
  simp only [send, h]
  rfl

/-- The slot of a single call that is on its way. -/
def awaiting (call : Call) (number : Nat) (request : Request) :
    Slots [call] :=
  (.pending number request, ())

/-- What happens while calls are sent together. -/
def sendTrail (next : Nat) (c : Console) : List Call → List Happening
  | [] => []
  | call :: rest =>
    match c.request? call with
    | some request =>
      .sent ⟨next, call, request⟩ :: sendTrail (next + 1) c rest
    | none =>
      .settled call c.session.token? .lost ::
        sendTrail next (c.settle call c.session.token? .lost).2 rest

theorem sendTrail_cons_of_some {next : Nat} {c : Console} {call : Call}
    {rest : List Call} {request : Request}
    (h : c.request? call = some request) :
    sendTrail next c (call :: rest)
      = .sent ⟨next, call, request⟩ :: sendTrail (next + 1) c rest := by
  simp only [sendTrail, h]

theorem sendTrail_cons_of_none {next : Nat} {c : Console} {call : Call}
    {rest : List Call} (h : c.request? call = none) :
    sendTrail next c (call :: rest)
      = .settled call c.session.token? .lost ::
          sendTrail next (c.settle call c.session.token? .lost).2 rest := by
  simp only [sendTrail, h]

/-- Sending leaves the console that its trail leads to. -/
theorem send_replay (cs : List Call) : ∀ (next : Nat) (c : Console),
    (send next c cs).2 = replay c (sendTrail next c cs) := by
  induction cs with
  | nil => intro next c; rfl
  | cons call rest ih =>
      intro next c
      cases h : c.request? call with
      | some request =>
          rw [send_cons_of_some h, sendTrail_cons_of_some h, replay_cons]
          exact ih (next + 1) c
      | none =>
          rw [send_cons_of_none h, sendTrail_cons_of_none h, replay_cons]
          exact ih next _

/-- What happens when the reply to a numbered request comes. -/
def deliverTrail (number : Nat) (reply : Reply) :
    {cs : List Call} → Slots cs → List Happening
  | [], _ => []
  | call :: _, (.pending n request, rest) =>
    if n = number then [.settled call request.token reply]
    else deliverTrail number reply rest
  | _ :: _, (.settled _, rest) => deliverTrail number reply rest

/-- Delivering leaves the console that its trail leads to. -/
theorem deliver_replay (number : Nat) (reply : Reply) (c : Console) :
    ∀ {cs : List Call} (slots : Slots cs),
      (slots.deliver number reply c).2
        = replay c (slots.deliverTrail number reply) := by
  intro cs
  induction cs with
  | nil => intro slots; rfl
  | cons call rest ih =>
      rintro ⟨slot, slots⟩
      cases slot with
      | settled outcome => exact ih slots
      | pending n request =>
          by_cases h : n = number
          · simp only [deliver, deliverTrail, h, if_true]
            rfl
          · simp only [deliver, deliverTrail, h, if_false]
            exact ih slots

end Slots

-- =================================================================== jobs

namespace Job

variable {α : Type}

/-- A job goes on at once if no call of its is left to wait for. -/
theorem advance_calls_of_some {next : Nat} {c : Console} {cs : List Call}
    {go : Answers cs → Job α} {as : Answers cs}
    (h : (Slots.send next c cs).1.answers? = some as) :
    (Job.calls cs go).advance next c
      = (go as).advance next (Slots.send next c cs).2 := by
  simp only [advance, h]

/-- Else it waits. -/
theorem advance_calls_of_none {next : Nat} {c : Console} {cs : List Call}
    {go : Answers cs → Job α}
    (h : (Slots.send next c cs).1.answers? = none) :
    (Job.calls cs go).advance next c
      = (.waiting (Slots.send next c cs).1 go,
          (Slots.send next c cs).2) := by
  simp only [advance, h]

/-- What happens while a job goes on until it ends or waits. -/
def trail (next : Nat) (c : Console) : Job α → List Happening
  | .done _ => []
  | .read go => (go c).trail next c
  | .act a go => .acted a :: (go (a.apply c).1).trail next (a.apply c).2
  | .calls cs go =>
    Slots.sendTrail next c cs ++
      match (Slots.send next c cs).1.answers? with
      | some as => (go as).trail next (Slots.send next c cs).2
      | none => []

section
variable {next : Nat} {c : Console} {call : Call} {go : Answers [call] → Job α}

/-- A job that sends one call waits for the reply. -/
theorem advance_call_of_some {request : Request}
    (h : c.request? call = some request) :
    (Job.calls [call] go).advance next c
      = (.waiting (Slots.awaiting call next request) go, c) := by
  have hsend : Slots.send next c [call]
      = (Slots.awaiting call next request, c) := Slots.send_cons_of_some h
  have hnone : (Slots.send next c [call]).1.answers? = none := by
    rw [hsend]
    rfl
  rw [advance_calls_of_none hnone, hsend]

/-- A single call that is sent is all that happens. -/
theorem trail_call_of_some {request : Request}
    (h : c.request? call = some request) :
    (Job.calls [call] go).trail next c = [.sent ⟨next, call, request⟩] := by
  have hnone : (Slots.send next c [call]).1.answers? = none := by
    rw [Slots.send_cons_of_some h]
    rfl
  simp only [trail, hnone, Slots.sendTrail_cons_of_some h]
  rfl

/-- A job whose one call cannot be sent goes on at once. -/
theorem advance_call_of_none (h : c.request? call = none) :
    (Job.calls [call] go).advance next c
      = (go ((c.settle call c.session.token? .lost).1, ())).advance next
          (c.settle call c.session.token? .lost).2 := by
  simp only [advance, Slots.send_cons_of_none h]
  rfl

/-- A single call that is lost is settled, and the job goes on with
that. -/
theorem trail_call_of_none (h : c.request? call = none) :
    (Job.calls [call] go).trail next c
      = .settled call c.session.token? .lost
          :: (go ((c.settle call c.session.token? .lost).1, ())).trail next
            (c.settle call c.session.token? .lost).2 := by
  simp only [trail, Slots.send_cons_of_none h,
    Slots.sendTrail_cons_of_none h]
  rfl

end

/-- A job leaves the console that its trail leads to. -/
theorem advance_replay (next : Nat) (j : Job α) : ∀ c : Console,
    (j.advance next c).2 = replay c (j.trail next c) := by
  induction j with
  | done result => intro c; rfl
  | read go ih => intro c; exact ih c c
  | act a go ih => intro c; exact ih _ _
  | calls cs go ih =>
      intro c
      have hsend := Slots.send_replay cs next c
      cases h : (Slots.send next c cs).1.answers? with
      | some as =>
          rw [advance_calls_of_some h, ih as]
          simp only [trail, h]
          rw [replay_append, ← hsend]
      | none =>
          rw [advance_calls_of_none h]
          simp only [trail, h, List.append_nil]
          exact hsend

end Job

namespace Paused

variable {α : Type}

/-- The reply that was missing lets the job go on. -/
theorem deliver_of_some {next number : Nat} {reply : Reply} {c : Console}
    {cs : List Call} {slots : Slots cs} {go : Answers cs → Job α}
    {as : Answers cs}
    (h : (slots.deliver number reply c).1.answers? = some as) :
    (Paused.waiting slots go).deliver next number reply c
      = (go as).advance next (slots.deliver number reply c).2 := by
  simp only [deliver, h]

/-- While another one is missing it waits on. -/
theorem deliver_of_none {next number : Nat} {reply : Reply} {c : Console}
    {cs : List Call} {slots : Slots cs} {go : Answers cs → Job α}
    (h : (slots.deliver number reply c).1.answers? = none) :
    (Paused.waiting slots go).deliver next number reply c
      = (.waiting (slots.deliver number reply c).1 go,
          (slots.deliver number reply c).2) := by
  simp only [deliver, h]

/-- What happens when the reply to a numbered request is handed to a job:
the reply is settled, and the job goes on if it has all it waits for. -/
def deliverTrail (next number : Nat) (reply : Reply) (c : Console) :
    Paused α → List Happening
  | .ended _ => []
  | .waiting slots go =>
    slots.deliverTrail number reply ++
      match (slots.deliver number reply c).1.answers? with
      | some as => (go as).trail next (slots.deliver number reply c).2
      | none => []

/-- A job that was handed a reply leaves the console that its trail leads
to. -/
theorem deliver_replay (next number : Nat) (reply : Reply) (c : Console)
    (p : Paused α) :
    (p.deliver next number reply c).2
      = replay c (p.deliverTrail next number reply c) := by
  cases p with
  | ended result => rfl
  | waiting slots go =>
      have hslots := Slots.deliver_replay number reply c slots
      cases h : (slots.deliver number reply c).1.answers? with
      | some as =>
          rw [deliver_of_some h, Job.advance_replay]
          simp only [deliverTrail, h]
          rw [replay_append, ← hslots]
      | none =>
          rw [deliver_of_none h]
          simp only [deliverTrail, h, List.append_nil]
          exact hslots

end Paused
end SecurityConsole
