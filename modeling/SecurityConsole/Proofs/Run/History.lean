/-
The history of a run: the trails of its moves, one behind the other.

Replaying it on the first console gives the last one (`run_replay`). Two
facts tie it to the requests under way: a reply to one of them is settled
before anything else happens, with the token the request carries
(`deliverTrail_of_outstanding`), and each of them was sent earlier in the
history, by a console that made just this request of the call then
(`outstanding_sent`).
-/
import SecurityConsole.Proofs.Run.Delivery

namespace SecurityConsole

-- ============================================================ sent earlier

/-- Whether a request was sent on the way that happenings lead from a
console: at that point, the console makes this request of the call. -/
def SentIn (c : Console) (hs : List Happening) (s : Sent) : Prop :=
  ∃ before behind, hs = before ++ .sent s :: behind
    ∧ (replay c before).request? s.call = some s.request

theorem SentIn.more {c : Console} {hs : List Happening} {s : Sent}
    (h : SentIn c hs s) (ks : List Happening) : SentIn c (hs ++ ks) s := by
  obtain ⟨before, behind, rfl, hr⟩ := h
  exact ⟨before, behind ++ ks, by rw [List.append_assoc]; rfl, hr⟩

/-- A request that was sent behind other happenings. -/
theorem SentIn.later {c : Console} {hs ks : List Happening} {s : Sent}
    (h : SentIn (replay c hs) ks s) : SentIn c (hs ++ ks) s := by
  obtain ⟨before, behind, rfl, hr⟩ := h
  refine ⟨hs ++ before, behind, by rw [List.append_assoc], ?_⟩
  rw [replay_append]
  exact hr

/-- A request that was sent behind one happening. -/
theorem SentIn.cons {c : Console} {x : Happening} {hs : List Happening}
    {s : Sent} (h : SentIn (x.apply c) hs s) : SentIn c (x :: hs) s := by
  obtain ⟨before, behind, rfl, hr⟩ := h
  exact ⟨x :: before, behind, rfl, hr⟩

/-- Calls that are sent together are sent on the way. -/
theorem Slots.send_sent (cs : List Call) : ∀ (next : Nat) (c : Console)
    {s : Sent}, s ∈ (Slots.send next c cs).1.outstanding →
    SentIn c (Slots.sendTrail next c cs) s := by
  induction cs with
  | nil => intro next c s hs; cases hs
  | cons call rest ih =>
      intro next c s hs
      cases h : c.request? call with
      | some request =>
          rw [send_cons_of_some h] at hs
          rw [sendTrail_cons_of_some h]
          have hmem : s ∈ Sent.mk next call request
              :: (Slots.send (next + 1) c rest).1.outstanding := hs
          rcases List.mem_cons.1 hmem with rfl | hrest
          · exact ⟨[], _, rfl, h⟩
          · exact SentIn.cons (ih (next + 1) c hrest)
      | none =>
          rw [send_cons_of_none h] at hs
          rw [sendTrail_cons_of_none h]
          have hmem : s ∈ (Slots.send next
              (c.settle call c.session.token? .lost).2 rest).1.outstanding :=
            hs
          exact SentIn.cons (ih next _ hmem)

/-- What a job waits for was sent on its way. -/
theorem Job.advance_sent {α : Type} (next : Nat) (j : Job α) :
    ∀ (c : Console) {s : Sent}, s ∈ (j.advance next c).1.outstanding →
      SentIn c (j.trail next c) s := by
  induction j with
  | done result => intro c s hs; cases hs
  | read go ih => intro c s hs; exact ih c c hs
  | act a go ih => intro c s hs; exact SentIn.cons (ih _ _ hs)
  | calls cs go ih =>
      intro c s hs
      cases h : (Slots.send next c cs).1.answers? with
      | some as =>
          rw [advance_calls_of_some h] at hs
          simp only [trail, h]
          refine SentIn.later ?_
          rw [← Slots.send_replay]
          exact ih as _ hs
      | none =>
          rw [advance_calls_of_none h] at hs
          simp only [trail, h, List.append_nil]
          exact Slots.send_sent cs next c hs

/-- What a job waits for once it was handed a reply, it had waited for
before, or it was sent on the way. -/
theorem Paused.deliver_sent {α : Type} {next number : Nat} {reply : Reply}
    {c : Console} {p : Paused α} {s : Sent}
    (hs : s ∈ (p.deliver next number reply c).1.outstanding) :
    s ∈ p.outstanding
      ∨ SentIn c (p.deliverTrail next number reply c) s := by
  cases p with
  | ended result => exact .inl hs
  | waiting slots go =>
      cases h : (slots.deliver number reply c).1.answers? with
      | some as =>
          rw [deliver_of_some h] at hs
          refine .inr ?_
          simp only [deliverTrail, h]
          refine SentIn.later ?_
          rw [← Slots.deliver_replay]
          exact Job.advance_sent _ _ _ hs
      | none =>
          rw [deliver_of_none h] at hs
          exact .inl
            ((Slots.deliver_outstanding number reply c slots).subset hs)

-- ========================================================= settled at once

/-- The reply to one of the requests settles its call. -/
theorem Slots.deliverTrail_of_mem {s : Sent} (reply : Reply) :
    ∀ {cs : List Call} (slots : Slots cs),
      (slots.outstanding.map Sent.number).Nodup → s ∈ slots.outstanding →
      slots.deliverTrail s.number reply
        = [.settled s.call s.request.token reply] := by
  intro cs
  induction cs with
  | nil => intro slots _ hs; cases hs
  | cons call rest ih =>
      rintro ⟨slot, slots⟩ hnodup hs
      cases slot with
      | settled outcome => exact ih slots hnodup hs
      | pending n request =>
          have hcons := List.nodup_cons.1 hnodup
          rcases List.mem_cons.1 hs with rfl | hrest
          · simp only [deliverTrail, if_true]
          · have hne : ¬ n = s.number := by
              intro heq
              exact hcons.1 (List.mem_map.2 ⟨s, hrest, heq.symm⟩)
            simp only [deliverTrail, hne, if_false]
            exact ih slots hcons.2 hrest

/-- A job that is handed the reply to one of its requests settles the call
before it does anything else. -/
theorem Paused.deliverTrail_of_mem {α : Type} {p : Paused α} {s : Sent}
    (hnodup : (p.outstanding.map Sent.number).Nodup)
    (hs : s ∈ p.outstanding) (next : Nat) (reply : Reply) (c : Console) :
    ∃ rest, p.deliverTrail next s.number reply c
      = .settled s.call s.request.token reply :: rest := by
  cases p with
  | ended result => cases hs
  | waiting slots go =>
      simp only [deliverTrail]
      rw [Slots.deliverTrail_of_mem reply slots hnodup hs]
      exact ⟨_, rfl⟩

namespace Workload

-- ================================================================= trails

section
variable {α : Type}

/-- What happens when the listener looks for one signal. -/
def listenOnceTrail (w : Workload α) : List Happening :=
  match w.reload, w.console.channel.bind Channel.receive? with
  | none, some channel =>
    .received :: Console.loadBranding.trail w.next
      { w.console with channel := some channel }
  | _, _ => []

/-- What happens when the listener looks for a number of signals. -/
def listenTrail (w : Workload α) : Nat → List Happening
  | 0 => []
  | n + 1 => w.listenTrail n ++ (n.repeat listenOnce w).listenOnceTrail

/-- What happens when the reply to a numbered request comes. -/
def deliverTrail (w : Workload α) (number : Nat) (reply : Reply) :
    List Happening :=
  match w.reload.filter (·.awaits number) with
  | some p =>
    p.deliverTrail w.next number reply w.console ++
      (w.reloaded p number reply).listenTrail
        (w.reloaded p number reply).backlog
  | none =>
    match w.jobs.find? (·.2.awaits number) with
    | some j => j.2.deliverTrail w.next number reply w.console
    | none => []

/-- A reply to the listener's load: what happens then, and what the
listener does next. -/
theorem deliverTrail_of_reload {w : Workload α} {p : Paused Unit}
    {number : Nat} (h : w.reload = some p) (hp : p.awaits number = true)
    (reply : Reply) :
    w.deliverTrail number reply
      = p.deliverTrail w.next number reply w.console ++
          (w.reloaded p number reply).listenTrail
            (w.reloaded p number reply).backlog := by
  have hf : (some p).filter (·.awaits number) = some p := if_pos hp
  unfold deliverTrail
  rw [h, hf]

/-- A load that waits for another number is no addressee. -/
theorem filter_reload_of_not_awaits {w : Workload α} {number : Nat}
    (h : w.reloadAwaits number = false) :
    w.reload.filter (·.awaits number) = none := by
  unfold reloadAwaits at h
  cases hr : w.reload with
  | none => rfl
  | some p =>
      rw [hr] at h
      have hp : p.awaits number = false := h
      simp only [Option.filter, hp, Bool.false_eq_true, if_false]

/-- A reply to a job: what happens is what the job does with it. The
jobs before it do not wait for the number, and so they are passed
over. -/
theorem deliverTrail_of_job {w : Workload α} {number : Nat}
    {before behind : List (String × Paused α)} {name : String}
    {p : Paused α} (hr : w.reloadAwaits number = false)
    (hw : w.jobs = before ++ (name, p) :: behind)
    (hb : ∀ j ∈ before, j.2.awaits number = false)
    (hp : p.awaits number = true) (reply : Reply) :
    w.deliverTrail number reply
      = p.deliverTrail w.next number reply w.console := by
  have hbefore : before.find? (·.2.awaits number) = none := by
    rw [List.find?_eq_none]
    intro j hj
    rw [hb j hj]
    exact Bool.false_ne_true
  have hfind : w.jobs.find? (·.2.awaits number) = some (name, p) := by
    rw [hw, List.find?_append, hbefore, Option.none_or, List.find?_cons, hp]
  unfold deliverTrail
  rw [filter_reload_of_not_awaits hr, hfind]

/-- A reply that nobody waits for makes nothing happen. -/
theorem deliverTrail_of_none {w : Workload α} {number : Nat}
    (hr : w.reloadAwaits number = false)
    (hj : ∀ j ∈ w.jobs, j.2.awaits number = false) (reply : Reply) :
    w.deliverTrail number reply = [] := by
  have hjobs : w.jobs.find? (·.2.awaits number) = none := by
    rw [List.find?_eq_none]
    intro j hjob
    rw [hj j hjob]
    exact Bool.false_ne_true
  unfold deliverTrail
  rw [filter_reload_of_not_awaits hr, hjobs]

end

/-- What happens in a move. -/
def stepTrail (w : Workload Report) : Move → List Happening
  | .begin _ task => task.job.trail w.next w.console
  | .reply number reply => w.deliverTrail number reply
  | .signal => [.signalled]
  | .listen => w.listenTrail w.backlog
  | .collect => []

/-- All that happens in a run. -/
def trail (w : Workload Report) : List Move → List Happening
  | [] => []
  | m :: ms => w.stepTrail m ++ (w.step m).trail ms

/-- The moves behind others happen to what those have left. -/
theorem trail_append (ms ns : List Move) : ∀ w : Workload Report,
    w.trail (ms ++ ns) = w.trail ms ++ (w.run ms).trail ns := by
  induction ms with
  | nil => intro w; rfl
  | cons m ms ih =>
      intro w
      show w.stepTrail m ++ (w.step m).trail (ms ++ ns) = _
      rw [ih, ← List.append_assoc]
      rfl

theorem trail_concat (ms : List Move) (m : Move) (w : Workload Report) :
    w.trail (ms ++ [m]) = w.trail ms ++ (w.run ms).stepTrail m := by
  rw [trail_append]
  show w.trail ms ++ ((w.run ms).stepTrail m ++ []) = _
  rw [List.append_nil]

-- ================================================================ leading

/-- Happenings lead from one workload to another: replaying them gives its
console, and what it waits for is old, or was sent on the way. -/
structure Leads {α : Type} (w : Workload α) (hs : List Happening)
    (v : Workload α) : Prop where
  console : v.console = replay w.console hs
  sent : ∀ s ∈ v.outstanding, s ∈ w.outstanding ∨ SentIn w.console hs s

namespace Leads

variable {α : Type} {w v u : Workload α} {hs ks : List Happening}

theorem nowhere (w : Workload α) : Leads w [] w :=
  ⟨rfl, fun _ h => .inl h⟩

/-- One way behind another: a request under way in the end was under way
in the middle, or was sent in the second half. -/
theorem trans (h : Leads w hs v) (k : Leads v ks u) :
    Leads w (hs ++ ks) u := by
  refine ⟨?_, ?_⟩
  · rw [k.console, h.console, replay_append]
  · intro s hs'
    rcases k.sent s hs' with hold | hnew
    · rcases h.sent s hold with hold | hsent
      · exact .inl hold
      · exact .inr (hsent.more ks)
    · rw [h.console] at hnew
      exact .inr hnew.later

end Leads

section
variable {α : Type}

/-- A task that begins leads along its own trail. -/
theorem begin_leads (w : Workload α) (name : String) (t : Job α) :
    Leads w (t.trail w.next w.console) (w.begin name t) := by
  refine ⟨Job.advance_replay w.next t w.console, ?_⟩
  intro s hs
  rw [outstanding_eq] at hs ⊢
  simp only [begin, List.flatMap_append, List.flatMap_cons,
    List.flatMap_nil, List.append_nil, List.append_assoc,
    List.mem_append] at hs ⊢
  rcases hs with hs | hs | hs
  · exact .inl (.inl hs)
  · exact .inr (Job.advance_sent w.next t w.console hs)
  · exact .inl (.inr hs)

/-- A signal that is received leads along the load it starts. -/
theorem received_leads (w : Workload α) {channel : Channel}
    (h : w.console.channel.bind Channel.receive? = some channel) :
    Leads w (.received :: Console.loadBranding.trail w.next
      { w.console with channel := some channel }) (w.received channel) := by
  have happly : Happening.received.apply w.console
      = { w.console with channel := some channel } := by
    simp only [Happening.apply, h]
  refine ⟨?_, ?_⟩
  · rw [replay_cons, happly, received_console]
    exact Job.advance_replay w.next Console.loadBranding _
  · intro s hs
    rw [received_outstanding] at hs
    rw [outstanding_eq]
    rcases List.mem_append.1 hs with hs | hs
    · exact .inl (List.mem_append_left _ hs)
    · refine .inr (SentIn.cons ?_)
      rw [happly]
      exact Job.advance_sent w.next Console.loadBranding _ hs

/-- One look of the listener leads along what it does. -/
theorem listenOnce_leads (w : Workload α) :
    Leads w w.listenOnceTrail w.listenOnce := by
  cases hr : w.reload with
  | some p =>
      have hw : w.listenOnce = w := by
        simp only [listenOnce, hr]
      have ht : w.listenOnceTrail = [] := by
        simp only [listenOnceTrail, hr]
      rw [hw, ht]
      exact .nowhere w
  | none =>
      cases hc : w.console.channel.bind Channel.receive? with
      | none =>
          have hw : w.listenOnce = w := by
            simp only [listenOnce, hr, hc]
          have ht : w.listenOnceTrail = [] := by
            simp only [listenOnceTrail, hr, hc]
          rw [hw, ht]
          exact .nowhere w
      | some channel =>
          have hw : w.listenOnce = w.received channel := by
            simp only [listenOnce, hr, hc]
            rfl
          rw [hw]
          simp only [listenOnceTrail, hr, hc]
          exact received_leads w hc

theorem listenFor_leads (w : Workload α) (n : Nat) :
    Leads w (w.listenTrail n) (n.repeat listenOnce w) := by
  induction n with
  | zero => exact .nowhere w
  | succ n ih => exact ih.trans (listenOnce_leads _)

theorem listen_leads (w : Workload α) :
    Leads w (w.listenTrail w.backlog) w.listen :=
  listenFor_leads w w.backlog

/-- The reply to the listener's load leads along what the load does with
it. Afterwards the load has no requests but those it has sent then. -/
theorem reloaded_leads {w : Workload α} {p : Paused Unit}
    (hr : w.reload = some p) (number : Nat) (reply : Reply) :
    Leads w (p.deliverTrail w.next number reply w.console)
      (w.reloaded p number reply) := by
  refine ⟨p.deliver_replay w.next number reply w.console, ?_⟩
  intro s hs
  rw [outstanding_eq] at hs ⊢
  unfold reloaded at hs
  rw [loadOutstanding_unless_ended] at hs
  rw [hr]
  rcases List.mem_append.1 hs with hs | hs
  · exact .inl (List.mem_append_left _ hs)
  · rcases Paused.deliver_sent hs with hold | hsent
    · exact .inl (List.mem_append_right _ hold)
    · exact .inr hsent

/-- So does the reply to a job. The requests of all others stay as they
were. -/
theorem handed_leads {w : Workload α}
    {before behind : List (String × Paused α)} {name : String}
    {p : Paused α} (hw : w.jobs = before ++ (name, p) :: behind)
    (number : Nat) (reply : Reply) :
    Leads w (p.deliverTrail w.next number reply w.console)
      (w.handed before name p behind number reply) := by
  refine ⟨p.deliver_replay w.next number reply w.console, ?_⟩
  intro s hs
  rw [outstanding_eq] at hs ⊢
  rw [hw]
  simp only [handed, List.flatMap_append, List.flatMap_cons,
    List.append_assoc, List.mem_append] at hs ⊢
  rcases hs with hs | hs | hs
  · exact .inl (.inl hs)
  · rcases Paused.deliver_sent hs with hold | hsent
    · exact .inl (.inr (.inl hold))
    · exact .inr hsent
  · exact .inl (.inr (.inr hs))

/-- A reply leads along its trail, wherever it goes. -/
theorem deliver_leads (w : Workload α) (number : Nat) (reply : Reply) :
    Leads w (w.deliverTrail number reply) (w.deliver number reply) := by
  rcases w.deliver_cases number reply with
    ⟨p, hr, hp, hd⟩ | ⟨before, name, p, behind, hr, hw, hb, hp, hd⟩
      | ⟨hr, hj, hd⟩
  · rw [hd, deliverTrail_of_reload hr hp]
    exact (reloaded_leads hr number reply).trans (listen_leads _)
  · rw [hd, deliverTrail_of_job hr hw hb hp]
    exact handed_leads hw number reply
  · rw [hd, deliverTrail_of_none hr hj]
    exact ⟨rfl, fun _ h => .inl h⟩

end

/-- Every move leads along its trail. -/
theorem step_leads (w : Workload Report) (m : Move) :
    Leads w (w.stepTrail m) (w.step m) := by
  cases m with
  | begin name task => exact begin_leads w name task.job
  | reply number reply => exact deliver_leads w number reply
  | signal => exact ⟨rfl, fun _ h => .inl h⟩
  | listen => exact listen_leads w
  | collect =>
      refine ⟨rfl, fun s hs => .inl ?_⟩
      rw [← collect_outstanding]
      exact hs

/-- And so does every run. -/
theorem run_leads (ms : List Move) : ∀ w : Workload Report,
    Leads w (w.trail ms) (w.run ms) := by
  induction ms with
  | nil => intro w; exact .nowhere w
  | cons m ms ih => intro w; exact (step_leads w m).trans (ih _)

/-- A run leaves the console that its trail leads to. -/
theorem run_replay (w : Workload Report) (ms : List Move) :
    (w.run ms).console = replay w.console (w.trail ms) :=
  (run_leads ms w).console

/-- In a run of a new console, what is under way was sent in the run. -/
theorem outstanding_sent {baseUrl : String} {storage : Storage}
    {ms : List Move} {s : Sent}
    (hs : s ∈ ((Console.fresh baseUrl storage).run ms).outstanding) :
    SentIn (.start baseUrl storage)
      ((Console.fresh baseUrl storage).trail ms) s := by
  rcases (run_leads ms (Console.fresh baseUrl storage)).sent s hs with h | h
  · cases h
  · exact h

-- ========================================================= settled at once

section
variable {α : Type}

/-- A job that waits for the reply to the request with a number waits for
the one request under way that has it. -/
theorem Numbered.mem_of_awaits {w : Workload α} {β : Type} {p : Paused β}
    {s : Sent} (hw : w.Numbered) (hp : p.outstanding.Sublist w.outstanding)
    (hs : s ∈ w.outstanding) (ha : p.awaits s.number = true) :
    s ∈ p.outstanding := by
  obtain ⟨t, ht, heq⟩ := Paused.awaits_iff.1 ha
  rw [Fresh.eq_of_number hw hs (hp.subset ht) heq.symm]
  exact ht

/-- The reply to a request under way is settled before anything else
happens, with the token that the request carries. -/
theorem deliverTrail_of_outstanding {w : Workload α} {s : Sent}
    (hw : w.Numbered) (hs : s ∈ w.outstanding) (reply : Reply) :
    ∃ rest, w.deliverTrail s.number reply
      = .settled s.call s.request.token reply :: rest := by
  have hnodup : ∀ {β : Type} {p : Paused β},
      p.outstanding.Sublist w.outstanding →
      (p.outstanding.map Sent.number).Nodup :=
    fun h => (h.map Sent.number).nodup hw.distinct
  rcases w.deliver_cases s.number reply with
    ⟨p, hr, hp, -⟩ | ⟨before, name, p, behind, hr, hjobs, hb, hp, -⟩
      | ⟨hr, hj, -⟩
  · have hsub := reload_outstanding_sublist hr
    obtain ⟨rest, hrest⟩ := Paused.deliverTrail_of_mem (hnodup hsub)
      (hw.mem_of_awaits hsub hs hp) w.next reply w.console
    rw [deliverTrail_of_reload hr hp, hrest]
    exact ⟨_, rfl⟩
  · have hsub := job_outstanding_sublist hjobs
    rw [deliverTrail_of_job hr hjobs hb hp]
    exact Paused.deliverTrail_of_mem (hnodup hsub)
      (hw.mem_of_awaits hsub hs hp) w.next reply w.console
  · -- nobody waits for the number, though the request is under way
    rw [outstanding_eq] at hs
    rcases List.mem_append.1 hs with hs | hs
    · obtain ⟨j, hjob, hmem⟩ := List.mem_flatMap.1 hs
      have hno := hj j hjob
      rw [Paused.awaits_iff.2 ⟨s, hmem, rfl⟩] at hno
      cases hno
    · unfold reloadAwaits at hr
      cases hload : w.reload with
      | none =>
          rw [hload] at hs
          cases hs
      | some p =>
          rw [hload] at hs hr
          have hno : p.awaits s.number = false := hr
          rw [Paused.awaits_iff.2 ⟨s, hs, rfl⟩] at hno
          cases hno

end
end Workload
end SecurityConsole
