/-
What jobs do by themselves, whatever they read and are answered.

A job keeps to a kind of acts if every act it can come to is of that kind
(`Job.Within`). Then so is every act along its trail, and what is left of
the job where it waits keeps to it as well; hence in a run whose tasks
keep to a kind, nothing else is done to the console (`run_within`),
however the tasks take turns.
-/
import SecurityConsole.Proofs.Run.History

namespace SecurityConsole

open Console (loadBranding)

-- =================================================================== jobs

/-- A job all of whose acts are of a kind. -/
inductive Job.Within (P : Act → Prop) {α : Type} : Job α → Prop where
  | done (result : α) : Within P (.done result)
  | read {go : Console → Job α} (h : ∀ c, Within P (go c)) :
      Within P (.read go)
  | act {a : Act} {go : Bool → Job α} (ha : P a)
      (h : ∀ b, Within P (go b)) : Within P (.act a go)
  | calls {cs : List Call} {go : Answers cs → Job α}
      (h : ∀ as, Within P (go as)) : Within P (.calls cs go)

/-- A job that has ended, or that keeps to a kind of acts from where it
waits. -/
inductive Paused.Within (P : Act → Prop) {α : Type} : Paused α → Prop where
  | ended (result : α) : Within P (.ended result)
  | waiting {cs : List Call} {slots : Slots cs} {go : Answers cs → Job α}
      (h : ∀ as, (go as).Within P) : Within P (.waiting slots go)

/-- All that is done along a trail is of a kind. -/
def ActsIn (P : Act → Prop) (hs : List Happening) : Prop :=
  ∀ a, .acted a ∈ hs → P a

section
variable {P : Act → Prop} {hs ks : List Happening}

/-- Two stretches of a trail, one behind the other. -/
theorem ActsIn.append (h : ActsIn P hs) (k : ActsIn P ks) :
    ActsIn P (hs ++ ks) := by
  intro a ha
  rcases List.mem_append.1 ha with ha | ha
  · exact h a ha
  · exact k a ha

/-- A happening in front. It has to be of the kind only if it is an
act. -/
theorem ActsIn.cons {x : Happening} (hx : ∀ a, x = .acted a → P a)
    (h : ActsIn P hs) : ActsIn P (x :: hs) := by
  intro a ha
  rcases List.mem_cons.1 ha with heq | ha
  · exact hx a heq.symm
  · exact h a ha

theorem ActsIn.nil : ActsIn P [] := fun _ h => absurd h List.not_mem_nil

end

namespace Job.Within

variable {P : Act → Prop} {α β : Type}

/-- A job keeps to a kind of acts if its first part does, and every part
that may go on behind it. -/
theorem bind {f : α → Job β} {j : Job α} (h : j.Within P)
    (hf : ∀ r, (f r).Within P) : (j.bind f).Within P := by
  induction h with
  | done result => exact hf result
  | read _ ih => exact .read ih
  | act ha _ ih => exact .act ha ih
  | calls _ ih => exact .calls ih

/-- A single act is all that is done. -/
theorem perform {a : Act} (ha : P a) : (Job.perform a).Within P :=
  .act ha fun b => .done b

/-- A call does nothing by itself. -/
theorem call (call : Call) : (Job.call call).Within P :=
  .calls fun as => .done as.1

end Job.Within

-- ================================================================= trails

namespace Slots

variable {P : Act → Prop}

/-- Sending does nothing but send, and lose calls. -/
theorem sendTrail_acts (cs : List Call) : ∀ (next : Nat) (c : Console),
    ActsIn P (sendTrail next c cs) := by
  induction cs with
  | nil => intro next c; exact .nil
  | cons call rest ih =>
      intro next c
      cases h : c.request? call with
      | some request =>
          rw [sendTrail_cons_of_some h]
          exact .cons nofun (ih (next + 1) c)
      | none =>
          rw [sendTrail_cons_of_none h]
          exact .cons nofun (ih next _)

/-- Settling a slot does nothing but answer. -/
theorem deliverTrail_acts (number : Nat) (reply : Reply) :
    ∀ {cs : List Call} (slots : Slots cs),
      ActsIn P (slots.deliverTrail number reply) := by
  intro cs
  induction cs with
  | nil => intro slots; exact .nil
  | cons call rest ih =>
      rintro ⟨slot, slots⟩
      cases slot with
      | settled outcome => exact ih slots
      | pending n request =>
          by_cases h : n = number
          · simp only [deliverTrail, h, if_true]
            exact .cons (fun _ h => by cases h) .nil
          · simp only [deliverTrail, h, if_false]
            exact ih slots

end Slots

section
variable {P : Act → Prop} {α : Type}

/-- A stretch of a job that was begun, or goes on behind its answers. -/
theorem Job.Within.advance {j : Job α} (h : j.Within P) (next : Nat) :
    ∀ c : Console, (j.advance next c).1.Within P
      ∧ ActsIn P (j.trail next c) := by
  induction h with
  | done result => intro c; exact ⟨.ended result, .nil⟩
  | read _ ih => intro c; exact ih c c
  | @act a go ha _ ih =>
      intro c
      obtain ⟨hwithin, hacts⟩ := ih (a.apply c).1 (a.apply c).2
      refine ⟨hwithin, hacts.cons ?_⟩
      rintro b ⟨⟩
      exact ha
  | @calls cs go h ih =>
      intro c
      -- all replies may be there at once; then the job goes on in the
      -- same stretch
      have hsent := Slots.sendTrail_acts (P := P) cs next c
      cases has : (Slots.send next c cs).1.answers? with
      | some as =>
          obtain ⟨hwithin, hacts⟩ := ih as (Slots.send next c cs).2
          rw [advance_calls_of_some has]
          simp only [trail, has]
          exact ⟨hwithin, hsent.append hacts⟩
      | none =>
          rw [advance_calls_of_none has]
          simp only [trail, has, List.append_nil]
          exact ⟨.waiting h, hsent⟩

/-- A stretch that begins with a reply. -/
theorem Paused.Within.deliver {p : Paused α} (h : p.Within P)
    (next number : Nat) (reply : Reply) (c : Console) :
    (p.deliver next number reply c).1.Within P
      ∧ ActsIn P (p.deliverTrail next number reply c) := by
  cases h with
  | ended result => exact ⟨.ended result, .nil⟩
  | @waiting cs slots go h =>
      have hsettled := Slots.deliverTrail_acts (P := P) number reply slots
      cases has : (slots.deliver number reply c).1.answers? with
      | some as =>
          obtain ⟨hwithin, hacts⟩ :=
            (h as).advance next (slots.deliver number reply c).2
          rw [deliver_of_some has]
          simp only [deliverTrail, has]
          exact ⟨hwithin, hsettled.append hacts⟩
      | none =>
          rw [deliver_of_none has]
          simp only [deliverTrail, has, List.append_nil]
          exact ⟨.waiting h, hsettled⟩

end

-- =================================================================== runs

/-- A move that begins no task but one that keeps to a kind of acts. -/
def Move.Within (P : Act → Prop) : Move → Prop
  | .begin _ task => task.job.Within P
  | .reply .. | .signal | .listen | .collect => True

namespace Workload

variable {P : Act → Prop}

/-- A workload whose jobs keep to a kind of acts. -/
structure Within {α : Type} (P : Act → Prop) (w : Workload α) : Prop where
  jobs : ∀ j ∈ w.jobs, j.2.Within P
  reload : ∀ p, w.reload = some p → p.Within P

section
variable {α : Type} {w : Workload α}

/-- A signal that was received starts a load. The load may end before it
waits, and then no reload is left to speak of. -/
theorem received_within (hload : loadBranding.Within P) (h : w.Within P)
    (channel : Channel) :
    (w.received channel).Within P
      ∧ ActsIn P (loadBranding.trail w.next
          { w.console with channel := some channel }) := by
  have hbegun := hload.advance w.next
    { w.console with channel := some channel }
  unfold received
  revert hbegun
  -- the load may be any job that keeps to the kind
  generalize loadBranding = j
  rintro ⟨hwithin, hacts⟩
  refine ⟨⟨h.jobs, fun q hq => ?_⟩, hacts⟩
  rw [unless_ended hq]
  exact hwithin

/-- One turn of the listener: a reload that is under way keeps it from
reading, and without a signal there is nothing to read. Otherwise it
loads the branding, which keeps to the kind by assumption. -/
theorem listenOnce_within (hload : loadBranding.Within P)
    (h : w.Within P) :
    w.listenOnce.Within P ∧ ActsIn P w.listenOnceTrail := by
  cases hr : w.reload with
  | some p =>
      simp only [listenOnce, listenOnceTrail, hr]
      exact ⟨h, .nil⟩
  | none =>
      cases hc : w.console.channel.bind Channel.receive? with
      | none =>
          simp only [listenOnce, listenOnceTrail, hr, hc]
          exact ⟨h, .nil⟩
      | some channel =>
          obtain ⟨hwithin, hacts⟩ := received_within hload h channel
          simp only [listenOnce, listenOnceTrail, hr, hc]
          exact ⟨hwithin, hacts.cons fun _ h => by cases h⟩

/-- As many turns of the listener as one likes. -/
theorem listenFor_within (hload : loadBranding.Within P) (h : w.Within P)
    (n : Nat) :
    (n.repeat listenOnce w).Within P ∧ ActsIn P (w.listenTrail n) := by
  induction n with
  | zero => exact ⟨h, .nil⟩
  | succ n ih =>
      obtain ⟨hwithin, hacts⟩ := listenOnce_within hload ih.1
      exact ⟨hwithin, ih.2.append hacts⟩

/-- The listener reads all that it has a backlog of. -/
theorem listen_within (hload : loadBranding.Within P) (h : w.Within P) :
    w.listen.Within P ∧ ActsIn P (w.listenTrail w.backlog) :=
  listenFor_within hload h w.backlog

/-- A reply goes to the reload of the listener, to a job, or to nobody.
Behind a reload the listener reads on, so its later loads are part of
what the move does. -/
theorem deliver_within (hload : loadBranding.Within P) (h : w.Within P)
    (number : Nat) (reply : Reply) :
    (w.deliver number reply).Within P
      ∧ ActsIn P (w.deliverTrail number reply) := by
  rcases w.deliver_cases number reply with
    ⟨p, hr, hp, hd⟩ | ⟨before, name, p, behind, hr, hw, hb, hp, hd⟩
      | ⟨hr, hj, hd⟩
  -- to the reload
  · obtain ⟨hwithin, hacts⟩ :=
      (h.reload p hr).deliver w.next number reply w.console
    have hreloaded : (w.reloaded p number reply).Within P := by
      refine ⟨h.jobs, fun q hq => ?_⟩
      rw [unless_ended hq]
      exact hwithin
    obtain ⟨hlistened, hlater⟩ := listen_within hload hreloaded
    rw [hd, deliverTrail_of_reload hr hp]
    exact ⟨hlistened, hacts.append hlater⟩
  -- to the job of that name
  · obtain ⟨hwithin, hacts⟩ :=
      (h.jobs (name, p) (mem_jobs hw)).deliver w.next number reply w.console
    rw [hd, deliverTrail_of_job hr hw hb hp]
    refine ⟨⟨fun j hj => ?_, h.reload⟩, hacts⟩
    rcases mem_handed hw hj with hj | rfl
    · exact h.jobs j hj
    · exact hwithin
  -- to nobody
  · rw [hd, deliverTrail_of_none hr hj]
    exact ⟨⟨h.jobs, h.reload⟩, .nil⟩

end

variable {w : Workload Report}

/-- One move. Only a beginning brings a new job into the workload, and
that job keeps to the kind by assumption. -/
theorem step_within (hload : loadBranding.Within P) (h : w.Within P)
    {m : Move} (hm : m.Within P) :
    (w.step m).Within P ∧ ActsIn P (w.stepTrail m) := by
  cases m with
  | begin name task =>
      have hm : task.job.Within P := hm
      obtain ⟨hwithin, hacts⟩ := hm.advance w.next w.console
      refine ⟨⟨fun j hj => ?_, h.reload⟩, hacts⟩
      rcases mem_begin hj with hj | rfl
      · exact h.jobs j hj
      · exact hwithin
  | reply number reply => exact deliver_within hload h number reply
  | signal => exact ⟨⟨h.jobs, h.reload⟩, ActsIn.nil.cons nofun⟩
  | listen => exact listen_within hload h
  | collect =>
      refine ⟨⟨fun j hj => ?_, h.reload⟩, .nil⟩
      exact h.jobs j (List.mem_filter.1 hj).1

/-- In a run of tasks that keep to a kind of acts, nothing else is done. -/
theorem run_within (hload : loadBranding.Within P) (ms : List Move) :
    ∀ {w : Workload Report}, w.Within P → (∀ m ∈ ms, m.Within P) →
      (w.run ms).Within P ∧ ActsIn P (w.trail ms) := by
  induction ms with
  | nil => intro w h _; exact ⟨h, .nil⟩
  | cons m ms ih =>
      intro w h hms
      obtain ⟨hstep, hacts⟩ :=
        step_within hload h (hms m List.mem_cons_self)
      obtain ⟨hrun, hlater⟩ :=
        ih hstep fun n hn => hms n (List.mem_cons_of_mem _ hn)
      exact ⟨hrun, hacts.append hlater⟩

/-- A new console has nothing to do. -/
theorem fresh_within (baseUrl : String) (storage : Storage) :
    (Console.fresh baseUrl storage).Within P :=
  ⟨fun _ h => absurd h List.not_mem_nil, nofun⟩

end Workload
end SecurityConsole
