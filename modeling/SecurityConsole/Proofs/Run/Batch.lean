/-
Calls that are sent together, and their replies in any order.

A job that sends calls together and ends with what it makes of the answers
is, at any time, told by its slots (`Paused.awaiting`). Given which reply
each call gets, the answers it will have are told by the slots as well
(`Slots.eventual`), and no reply changes them (`Slots.deliver_one`). So the
job ends with these answers when the last reply has come, whichever that
is, and each reply was settled once (`Workload.replies_settle`). A call
without a request is settled before anything is sent; with this, all calls
are settled in any case, and with the token that the console holds at first
(`Slots.settlements_send`, `Workload.run_batch`).
-/
import SecurityConsole.Proofs.Job.Ensures
import SecurityConsole.Proofs.Run.Settlement

namespace SecurityConsole

-- ================================================================ replies

/-- Answers to calls, each found by itself. -/
def Answers.of (g : (call : Call) → call.Outcome) :
    (cs : List Call) → Answers cs
  | [] => ()
  | call :: rest => (g call, of g rest)

/-- Only the answers to the calls count. -/
theorem Answers.of_congr {g k : (call : Call) → call.Outcome} :
    ∀ {cs : List Call}, (∀ call ∈ cs, g call = k call) → of g cs = of k cs
  | [], _ => rfl
  | call :: _, h =>
    congr (congrArg Prod.mk (h call List.mem_cons_self))
      (of_congr fun other hother => h other (List.mem_cons_of_mem call hother))

namespace Sent

variable (ρ : Call → Reply)

/-- The reply to a request comes. -/
def replied (s : Sent) : Move := .reply s.number (ρ s.call)

/-- How the reply to a request settles its call. -/
def settlement (s : Sent) : Settlement :=
  ⟨s.call, s.request.token, ρ s.call⟩

end Sent

namespace Console

/-- What is heard of a call that a console sends: its reply, or that it is
lost if it has no request. -/
def heard (c : Console) (ρ : Call → Reply) (call : Call) : Reply :=
  if (c.request? call).isSome then ρ call else .lost

/-- How a call that a console sends is settled in the end. -/
def settlement (c : Console) (ρ : Call → Reply) (call : Call) :
    Settlement :=
  ⟨call, c.session.token?, c.heard ρ call⟩

section
variable {c : Console} {ρ : Call → Reply} {call : Call}

theorem heard_of_some {request : Request}
    (h : c.request? call = some request) : c.heard ρ call = ρ call := by
  unfold heard
  rw [h]
  rfl

theorem heard_of_none (h : c.request? call = none) :
    c.heard ρ call = .lost := by
  unfold heard
  rw [h]
  rfl

theorem settlement_of_some {request : Request}
    (h : c.request? call = some request) (n : Nat) :
    c.settlement ρ call = Sent.settlement ρ ⟨n, call, request⟩ := by
  unfold settlement Sent.settlement
  rw [heard_of_some h, request?_token h]

theorem settlement_of_none (h : c.request? call = none) :
    c.settlement ρ call = ⟨call, c.session.token?, .lost⟩ := by
  unfold settlement
  rw [heard_of_none h]

end

/-- A request is a matter of the address that paths are joined to and of
the token. -/
theorem request?_congr {c d : Console} (hbase : d.baseUrl = c.baseUrl)
    (htoken : d.session.token? = c.session.token?) (call : Call) :
    d.request? call = c.request? call := by
  unfold request? address?
  rw [hbase, htoken]

/-- A lost call leaves the token. -/
theorem token?_lost (c : Console) (call : Call) (token : Option String) :
    (c.settle call token .lost).2.session.token? = c.session.token? := by
  rw [settle_session, endsBy_of_not_refuses c rfl]
  rfl

/-- A lost call leaves all that requests are made of. -/
theorem request?_lost (c : Console) (call : Call) (token : Option String)
    (other : Call) :
    (c.settle call token .lost).2.request? other = c.request? other := by
  have hfailed : Verdict.ofReply call .lost
      = .failed .network Notice.networkError := rfl
  have hbase : (c.settle call token .lost).2.baseUrl = c.baseUrl := by
    rw [settle_of_failed c hfailed]
    rfl
  exact request?_congr hbase (c.token?_lost call token) other

/-- What is heard of calls does not change while a call is lost. -/
theorem heard_lost (c : Console) (call : Call) (token : Option String)
    (ρ : Call → Reply) :
    (c.settle call token .lost).2.heard ρ = c.heard ρ := by
  funext other
  unfold heard
  rw [request?_lost]

/-- A call that is lost ends no session, so what the others are settled
with stays the same. -/
theorem settlement_lost (c : Console) (call : Call)
    (token : Option String) (ρ : Call → Reply) :
    (c.settle call token .lost).2.settlement ρ = c.settlement ρ := by
  funext other
  unfold settlement
  rw [heard_lost, token?_lost]

end Console

-- ============================================================= happenings

/-- The request that leaves with a happening. -/
def Happening.sent? : Happening → Option Sent
  | .sent s => some s
  | _ => none

/-- The call that is settled with a happening. -/
def Happening.settlement? : Happening → Option Settlement
  | .settled call token reply => some ⟨call, token, reply⟩
  | _ => none

-- ================================================================== slots

namespace Slots

variable (ρ : Call → Reply)

/-- The answers that calls will have. -/
def eventual : {cs : List Call} → Slots cs → Answers cs
  | [], _ => ()
  | call :: _, (.pending _ request, rest) =>
    (call.outcome request.token (ρ call), eventual rest)
  | _ :: _, (.settled outcome, rest) => (outcome, eventual rest)

/-- Without requests under way the answers are there. -/
theorem answers?_eventual : ∀ {cs : List Call} {slots : Slots cs},
    slots.outstanding = [] → slots.answers? = some (slots.eventual ρ) := by
  intro cs
  induction cs with
  | nil => intro slots _; rfl
  | cons call rest ih =>
      rintro ⟨slot, slots⟩ h
      cases slot with
      | pending n request => cases h
      | settled outcome =>
          have hrest : slots.outstanding = [] := h
          exact congrArg (Option.map (outcome, ·)) (ih hrest)

/-- The answers are there only without requests under way. -/
theorem outstanding_of_answers : ∀ {cs : List Call} {slots : Slots cs}
    {as : Answers cs}, slots.answers? = some as → slots.outstanding = [] := by
  intro cs
  induction cs with
  | nil => intro slots as _; rfl
  | cons call rest ih =>
      rintro ⟨slot, slots⟩ as h
      cases slot with
      | pending n request => cases h
      | settled outcome =>
          obtain ⟨bs, hbs, -⟩ := Option.map_eq_some_iff.1 h
          exact ih hbs

/-- A reply answers its call as it was bound to be answered, and leaves
the other requests under way. -/
theorem deliver_one {s : Sent} (c : Console) :
    ∀ {cs : List Call} (slots : Slots cs),
      (slots.outstanding.map Sent.number).Nodup → s ∈ slots.outstanding →
      (slots.deliver s.number (ρ s.call) c).1.eventual ρ = slots.eventual ρ
        ∧ slots.outstanding.Perm
          (s :: (slots.deliver s.number (ρ s.call) c).1.outstanding) := by
  intro cs
  induction cs with
  | nil => intro slots _ hs; cases hs
  | cons call rest ih =>
      rintro ⟨slot, slots⟩ hnodup hs
      cases slot with
      | settled outcome =>
          obtain ⟨hanswers, hrest⟩ := ih slots hnodup hs
          exact ⟨congrArg (outcome, ·) hanswers, hrest⟩
      | pending n request =>
          have hcons := List.nodup_cons.1 hnodup
          rcases List.mem_cons.1 hs with rfl | hs
          · have houtcome := Console.settle_outcome c default call
              request.token (ρ call)
            simp only [deliver, if_true]
            exact ⟨congrArg (·, slots.eventual ρ) houtcome, .refl _⟩
          · have hne : ¬ n = s.number := by
              intro heq
              exact hcons.1 (List.mem_map.2 ⟨s, hs, heq.symm⟩)
            obtain ⟨hanswers, hrest⟩ := ih slots hcons.2 hs
            simp only [deliver, hne, if_false]
            refine ⟨congrArg (_, ·) hanswers, ?_⟩
            exact (hrest.cons _).trans (.swap ..)

/-- The requests that leave are those under way behind it. -/
theorem sent_send (cs : List Call) : ∀ (next : Nat) (c : Console),
    (sendTrail next c cs).filterMap Happening.sent?
      = (send next c cs).1.outstanding := by
  induction cs with
  | nil => exact fun _ _ => rfl
  | cons call rest ih =>
      intro next c
      cases h : c.request? call with
      | some request =>
          rw [send_cons_of_some h, sendTrail_cons_of_some h]
          exact congrArg (Sent.mk next call request :: ·) (ih (next + 1) c)
      | none =>
          rw [send_cons_of_none h, sendTrail_cons_of_none h]
          exact ih next _

/-- While calls are sent, those without a request are settled. -/
theorem console_send (cs : List Call) : ∀ (next : Nat) (c : Console),
    (send next c cs).2
      = c.settledAll
          ((sendTrail next c cs).filterMap Happening.settlement?) := by
  induction cs with
  | nil => exact fun _ _ => rfl
  | cons call rest ih =>
      intro next c
      cases h : c.request? call with
      | some request =>
          rw [send_cons_of_some h, sendTrail_cons_of_some h]
          exact ih (next + 1) c
      | none =>
          rw [send_cons_of_none h, sendTrail_cons_of_none h]
          exact ih next _

/-- Every call is settled when it is sent, or by its reply. -/
theorem settlements_send (cs : List Call) : ∀ (next : Nat) (c : Console),
    ((sendTrail next c cs).filterMap Happening.settlement?
        ++ (send next c cs).1.outstanding.map (Sent.settlement ρ)).Perm
      (cs.map (c.settlement ρ)) := by
  induction cs with
  | nil => exact fun _ _ => .refl _
  | cons call rest ih =>
      intro next c
      cases h : c.request? call with
      | some request =>
          rw [send_cons_of_some h, sendTrail_cons_of_some h, List.map_cons,
            Console.settlement_of_some h next]
          exact List.perm_middle.trans ((ih (next + 1) c).cons _)
      | none =>
          rw [send_cons_of_none h, sendTrail_cons_of_none h, List.map_cons,
            Console.settlement_of_none h,
            ← c.settlement_lost call c.session.token? ρ]
          exact (ih next _).cons _

/-- The answers that calls are bound to have. -/
theorem eventual_send (cs : List Call) : ∀ (next : Nat) (c : Console),
    (send next c cs).1.eventual ρ
      = Answers.of
          (fun call => call.outcome c.session.token? (c.heard ρ call))
          cs := by
  induction cs with
  | nil => exact fun _ _ => rfl
  | cons call rest ih =>
      intro next c
      cases h : c.request? call with
      | some request =>
          have hcall : call.outcome request.token (ρ call)
              = call.outcome c.session.token? (c.heard ρ call) := by
            rw [Console.heard_of_some h, Console.request?_token h]
          rw [send_cons_of_some h]
          exact congr (congrArg Prod.mk hcall) (ih (next + 1) c)
      | none =>
          have hcall : (c.settle call c.session.token? .lost).1
              = call.outcome c.session.token? (c.heard ρ call) := by
            rw [Console.heard_of_none h]
            exact Console.settle_outcome c default call _ .lost
          have hrest := ih next (c.settle call c.session.token? .lost).2
          rw [Console.heard_lost, Console.token?_lost] at hrest
          rw [send_cons_of_none h]
          exact congr (congrArg Prod.mk hcall) hrest

end Slots

-- ==================================================================== jobs

/-- A job that waits for calls, and ends with what it makes of the
answers. -/
def Paused.awaiting {α : Type} {cs : List Call} (slots : Slots cs)
    (f : Answers cs → α) : Paused α :=
  match slots.answers? with
  | some as => .ended (f as)
  | none => .waiting slots fun as => .done (f as)

section
variable {α : Type} {cs : List Call} {slots : Slots cs} {f : Answers cs → α}

namespace Paused

/-- With all answers the job is over. -/
theorem awaiting_of_answers {as : Answers cs}
    (h : slots.answers? = some as) : awaiting slots f = .ended (f as) := by
  simp only [awaiting, h]

/-- Until then it waits. -/
theorem awaiting_of_none (h : slots.answers? = none) :
    awaiting slots f = .waiting slots fun as => .done (f as) := by
  simp only [awaiting, h]

/-- Who still waits for a reply has not all answers. -/
theorem awaiting_of_mem {s : Sent} (hs : s ∈ slots.outstanding) :
    awaiting slots f = .waiting slots fun as => .done (f as) := by
  cases h : slots.answers? with
  | none => exact awaiting_of_none h
  | some as =>
      rw [Slots.outstanding_of_answers h] at hs
      cases hs

/-- A reply to such a job is a reply to its slots. -/
theorem deliver_awaiting {s : Sent} (hs : s ∈ slots.outstanding)
    (next number : Nat) (reply : Reply) (c : Console) :
    (awaiting slots f).deliver next number reply c
      = (awaiting (slots.deliver number reply c).1 f,
          (slots.deliver number reply c).2) := by
  rw [awaiting_of_mem hs]
  cases h : (slots.deliver number reply c).1.answers? with
  | some as => rw [deliver_of_some h, awaiting_of_answers h]; rfl
  | none => rw [deliver_of_none h, awaiting_of_none h]

theorem deliverTrail_awaiting {s : Sent} (hs : s ∈ slots.outstanding)
    (next number : Nat) (reply : Reply) (c : Console) :
    (awaiting slots f).deliverTrail next number reply c
      = slots.deliverTrail number reply := by
  rw [awaiting_of_mem hs]
  cases h : (slots.deliver number reply c).1.answers? with
  | some as => simp only [deliverTrail, h, Job.trail, List.append_nil]
  | none => simp only [deliverTrail, h, List.append_nil]

/-- What it waits for is what its slots wait for. -/
theorem outstanding_awaiting :
    (awaiting slots f).outstanding = slots.outstanding := by
  cases h : slots.answers? with
  | some as =>
      rw [awaiting_of_answers h, Slots.outstanding_of_answers h]
      rfl
  | none => rw [awaiting_of_none h]; rfl

end Paused

namespace Job

/-- Where it is begun, the calls are sent, and it waits with the
slots. -/
theorem advance_batch (next : Nat) (c : Console) :
    (Job.calls cs fun as => .done (f as)).advance next c
      = (.awaiting (Slots.send next c cs).1 f, (Slots.send next c cs).2) := by
  cases h : (Slots.send next c cs).1.answers? with
  | some as =>
      rw [advance_calls_of_some h, Paused.awaiting_of_answers h]
      rfl
  | none => rw [advance_calls_of_none h, Paused.awaiting_of_none h]

theorem trail_batch (next : Nat) (c : Console) :
    (Job.calls cs fun as => .done (f as)).trail next c
      = Slots.sendTrail next c cs := by
  cases h : (Slots.send next c cs).1.answers? with
  | some as => simp only [trail, h, List.append_nil]
  | none => simp only [trail, h, List.append_nil]

end Job
end

-- ==================================================================== runs

namespace Workload

variable {cs : List Call} {f : Answers cs → Report} {name : String}
  (ρ : Call → Reply)

/-- A job that only waits is handed the reply to one of its requests. -/
theorem reply_settles {w : Workload Report} {slots : Slots cs} {s : Sent}
    (hreload : w.reload = none)
    (hjobs : w.jobs = [(name, .awaiting slots f)])
    (hnodup : (slots.outstanding.map Sent.number).Nodup)
    (hs : s ∈ slots.outstanding) :
    let v := w.step (s.replied ρ)
    v.reload = none
      ∧ v.jobs = [(name, .awaiting
          (slots.deliver s.number (ρ s.call) w.console).1 f)]
      ∧ v.console = w.console.settled (s.settlement ρ)
      ∧ w.stepTrail (s.replied ρ)
        = [.settled s.call s.request.token (ρ s.call)] := by
  have hload : w.reloadAwaits s.number = false := by
    unfold reloadAwaits
    rw [hreload]
    rfl
  have hwaits : (Paused.awaiting slots f).awaits s.number = true := by
    refine Paused.awaits_iff.2 ⟨s, ?_, rfl⟩
    rw [Paused.outstanding_awaiting]
    exact hs
  have hsplit : w.jobs = [] ++ (name, .awaiting slots f) :: [] := hjobs
  have hnone : ∀ j ∈ ([] : List (String × Paused Report)),
      j.2.awaits s.number = false :=
    fun _ hj => absurd hj List.not_mem_nil
  have hstep : w.step (s.replied ρ)
      = w.handed [] name (.awaiting slots f) [] s.number (ρ s.call) :=
    deliver_of_job hload hsplit hnone hwaits (ρ s.call)
  have htrail : w.stepTrail (s.replied ρ)
      = (Paused.awaiting slots f).deliverTrail w.next s.number (ρ s.call)
          w.console :=
    deliverTrail_of_job hload hsplit hnone hwaits (ρ s.call)
  intro v
  rw [htrail, Paused.deliverTrail_awaiting hs,
    Slots.deliverTrail_of_mem (ρ s.call) slots hnodup hs]
  show (w.step _).reload = none ∧ (w.step _).jobs = _
    ∧ (w.step _).console = _ ∧ _
  rw [hstep]
  unfold handed
  rw [Paused.deliver_awaiting hs]
  exact ⟨hreload, rfl, (Slots.deliver_settles (ρ s.call) w.console slots
    hnodup hs).1, rfl⟩

/-- A job that only waits ends when all replies have come, in whatever
order, and has settled just these. -/
theorem replies_settle (order : List Sent) :
    ∀ (w : Workload Report) (slots : Slots cs), w.reload = none →
      w.jobs = [(name, .awaiting slots f)] →
      (slots.outstanding.map Sent.number).Nodup →
      order.Perm slots.outstanding →
      let ms := order.map (Sent.replied ρ)
      (w.run ms).jobs = [(name, .ended (f (slots.eventual ρ)))]
        ∧ (w.run ms).console
          = w.console.settledAll (order.map (Sent.settlement ρ))
        ∧ (w.trail ms).filterMap Happening.sent? = [] := by
  induction order with
  | nil =>
      intro w slots _ hjobs _ horder
      have hout : slots.outstanding = [] := horder.symm.eq_nil
      rw [Paused.awaiting_of_answers (Slots.answers?_eventual ρ hout)]
        at hjobs
      exact ⟨hjobs, rfl, rfl⟩
  | cons s order ih =>
      intro w slots hreload hjobs hnodup horder
      have hs : s ∈ slots.outstanding := horder.subset List.mem_cons_self
      obtain ⟨hreload', hjobs', hconsole, htrail⟩ :=
        reply_settles ρ hreload hjobs hnodup hs
      obtain ⟨hanswers, hrest⟩ := Slots.deliver_one ρ w.console slots hnodup hs
      have hsub := Slots.deliver_outstanding s.number (ρ s.call) w.console
        slots
      -- one request fewer is under way, and the answers are still the same
      obtain ⟨hend, hsettled, hsent⟩ := ih (w.step (s.replied ρ)) _ hreload'
        hjobs' ((hsub.map Sent.number).nodup hnodup)
        ((horder.trans hrest).cons_inv)
      rw [hanswers] at hend
      rw [hconsole] at hsettled
      refine ⟨hend, hsettled, ?_⟩
      show (w.stepTrail (s.replied ρ)
        ++ (w.step (s.replied ρ)).trail _).filterMap _ = []
      rw [htrail, List.filterMap_append, hsent]
      rfl

section
variable (c : Console) (name : String) {t : Task}
  (ht : t.job = .calls cs fun as => .done (f as))
include ht

/-- A console with nothing else to do begins a task that sends calls
together. -/
theorem begin_batch :
    ((idle c).run [.begin name t]).jobs
        = [(name, .awaiting (Slots.send 0 c cs).1 f)]
      ∧ ((idle c).run [.begin name t]).console = (Slots.send 0 c cs).2 := by
  have hbegun : t.job.advance 0 c
      = (.awaiting (Slots.send 0 c cs).1 f, (Slots.send 0 c cs).2) := by
    rw [ht]
    exact Job.advance_batch 0 c
  exact ⟨congrArg (fun r : Paused Report × Console => [(name, r.1)]) hbegun,
    congrArg Prod.snd hbegun⟩

/-- A console that begins nothing else waits for just these. -/
theorem outstanding_batch :
    ((idle c).run [.begin name t]).outstanding
      = (Slots.send 0 c cs).1.outstanding := by
  have hreload : ((idle c).run [.begin name t]).reload = none := rfl
  rw [outstanding_eq, (begin_batch c name ht).1, hreload, loadOutstanding,
    List.append_nil, List.flatMap_singleton, Paused.outstanding_awaiting]

/-- A task that sends calls together on a console with nothing else to do.
Whatever the replies and their order: it sends the requests of the calls,
it ends with what it makes of their outcomes, and all calls are settled
with the token held at first. -/
theorem run_batch {order : List Sent}
    (horder : order.Perm
      ((idle c).run [.begin name t]).outstanding) :
    let ms := .begin name t :: order.map (Sent.replied ρ)
    ((idle c).run ms).jobs
        = [(name, .ended (f (Answers.of
            (fun call => call.outcome c.session.token? (c.heard ρ call))
            cs)))]
      ∧ ((idle c).trail ms).filterMap Happening.sent?
        = ((idle c).run [.begin name t]).outstanding
      ∧ Settles c ((idle c).run ms).console (cs.map (c.settlement ρ)) := by
  let w : Workload Report := (idle c).run [.begin name t]
  obtain ⟨hjobs, hconsole⟩ := begin_batch c name ht
  have hout := outstanding_batch c name ht
  have hnodup : ((Slots.send 0 c cs).1.outstanding.map Sent.number).Nodup := by
    obtain ⟨k, hk⟩ := Slots.send_numbers cs 0 c
    rw [hk]
    exact List.nodup_range'
  rw [hout] at horder
  obtain ⟨hend, hsettled, hsent⟩ :=
    replies_settle ρ order w _ rfl hjobs hnodup horder
  refine ⟨?_, ?_, ?_⟩
  · rw [← Slots.eventual_send ρ cs 0 c]
    exact hend
  · show (t.job.trail 0 c ++ w.trail _).filterMap _ = w.outstanding
    rw [List.filterMap_append, hsent, List.append_nil, ht, Job.trail_batch,
      Slots.sent_send, hout]
  · have hall := Console.settledAll_settles
      ((Slots.sendTrail 0 c cs).filterMap Happening.settlement?
        ++ order.map (Sent.settlement ρ)) c
    rw [Console.settledAll, List.foldl_append] at hall
    show Settles c (w.run _).console _
    rw [hsettled, hconsole, Slots.console_send]
    exact hall.of_perm (((horder.map _).append_left _).trans
      (Slots.settlements_send ρ cs 0 c))

end
end Workload
end SecurityConsole
