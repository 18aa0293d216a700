/-
What a job ensures, whatever happens to the console while it waits.

A job goes on in stretches: it is begun, or handed a reply, and runs until
it waits again or ends. `Job.Ensures R W Q` says that at the end of each
stretch `W` holds if the job waits, and `Q` if it ends with a result. Both
are told the `Cause` of the stretch, with the console that the job found
at its beginning. In between, the console may change as `R` permits: by
nothing, when the job is alone, or at will, when others go on.

The rules follow the constructors of a job (`Ensures.bind`,
`Ensures.call`, `Ensures.calls`), and hold for the interpreter:
`Job.advance_ensures` and `Paused.deliver_ensures` for one stretch,
`Job.run_ensures` for a job that runs alone.
-/
import SecurityConsole.Proofs.Run.Numbering

namespace SecurityConsole

-- ================================================================= causes

/-- A request and the reply to it. -/
structure Exchange where
  call : Call
  request : Request
  reply : Reply

/-- The exchange that a reply to a request completes. -/
def Sent.answered (s : Sent) (reply : Reply) : Exchange :=
  ⟨s.call, s.request, reply⟩

/-- Why a job goes on, and the console that it finds. -/
inductive Cause where
  | begun (c : Console)
  | replied (e : Exchange) (c : Console)

/-- The console that a job finds when it goes on. -/
def Cause.found : Cause → Console
  | .begun c => c
  | .replied _ c => c

/-- Others may do anything while a job waits. -/
def Anyhow (_ _ : Console) : Prop := True

/-- Nothing is asked of a job while it waits. -/
def Unasked (_ : Cause) (_ : Console) : Prop := True

-- ================================================================ ensuring

section
variable (R : Console → Console → Prop) (W : Cause → Console → Prop)

/-- Calls that wait for replies get their answers, in whatever order the
replies come, and what is to hold with the answers does. -/
inductive Slots.Resumes {cs : List Call}
    (k : Answers cs → Cause → Console → Prop) :
    Slots cs → Cause → Console → Prop where
  | ready {slots : Slots cs} {x : Cause} {c : Console} {as : Answers cs}
      (h : slots.answers? = some as) (hk : k as x c) :
      Resumes k slots x c
  | waits {slots : Slots cs} {x : Cause} {c : Console}
      (h : slots.answers? = none) (hw : W x c)
      (hs : ∀ s ∈ slots.outstanding, ∀ reply d, R c d →
        Resumes k (slots.deliver s.number reply d).1
          (.replied (s.answered reply) d)
          (slots.deliver s.number reply d).2) :
      Resumes k slots x c

/-- What a job ensures that goes on for a cause and has led to a console
so far. -/
def Job.Ensures {α : Type} (Q : Cause → Console → α → Prop) :
    Job α → Cause → Console → Prop
  | .done result, x, c => Q x c result
  | .read go, x, c => (go c).Ensures Q x c
  | .act a go, x, c => (go (a.apply c).1).Ensures Q x (a.apply c).2
  | .calls cs go, x, c =>
    ∀ next, Slots.Resumes R W (fun as x c => (go as).Ensures Q x c)
      (Slots.send next c cs).1 x (Slots.send next c cs).2

/-- What a job ensures that has ended, or that waits. -/
inductive Paused.Ensures {α : Type} (Q : Cause → Console → α → Prop) :
    Paused α → Cause → Console → Prop where
  | ended {result : α} {x : Cause} {c : Console} (h : Q x c result) :
      Ensures Q (.ended result) x c
  | waiting {cs : List Call} {slots : Slots cs} {go : Answers cs → Job α}
      {x : Cause} {c : Console} (hnone : slots.answers? = none)
      (h : Slots.Resumes R W (fun as x c => (go as).Ensures R W Q x c)
        slots x c) :
      Ensures Q (.waiting slots go) x c

end

-- ================================================================== slots

namespace Slots

/-- Who waits for none has all answers. -/
theorem answers_of_outstanding : ∀ {cs : List Call} {slots : Slots cs},
    slots.outstanding = [] → ∃ as, slots.answers? = some as := by
  intro cs
  induction cs with
  | nil => intro slots _; exact ⟨(), rfl⟩
  | cons call rest ih =>
      rintro ⟨slot, slots⟩ h
      cases slot with
      | pending n request => cases h
      | settled outcome =>
          have hrest : slots.outstanding = [] := h
          obtain ⟨as, has⟩ := ih hrest
          exact ⟨(outcome, as), congrArg (Option.map (outcome, ·)) has⟩

/-- A reply settles the one call that waits for it. -/
theorem deliver_settles {s : Sent} (reply : Reply) (c : Console) :
    ∀ {cs : List Call} (slots : Slots cs),
      (slots.outstanding.map Sent.number).Nodup → s ∈ slots.outstanding →
      (slots.deliver s.number reply c).2
          = (c.settle s.call s.request.token reply).2
        ∧ (slots.deliver s.number reply c).1.outstanding.length
            < slots.outstanding.length := by
  intro cs
  induction cs with
  | nil => intro slots _ hs; cases hs
  | cons call rest ih =>
      rintro ⟨slot, slots⟩ hnodup hs
      cases slot with
      | settled outcome => exact ih slots hnodup hs
      | pending n request =>
          have hcons := List.nodup_cons.1 hnodup
          rcases List.mem_cons.1 hs with rfl | hrest
          · simp only [deliver, if_true]
            exact ⟨trivial, Nat.lt_succ_self _⟩
          · have hne : ¬ n = s.number := by
              intro heq
              exact hcons.1 (List.mem_map.2 ⟨s, hrest, heq.symm⟩)
            obtain ⟨hc, hlt⟩ := ih slots hcons.2 hrest
            simp only [deliver, hne, if_false]
            exact ⟨hc, Nat.succ_lt_succ hlt⟩

namespace Resumes

variable {R : Console → Console → Prop} {W : Cause → Console → Prop}
  {cs : List Call} {k : Answers cs → Cause → Console → Prop}
  {slots : Slots cs} {x : Cause} {c : Console}

theorem mono {l : Answers cs → Cause → Console → Prop}
    (h : Resumes R W k slots x c) (hk : ∀ as x c, k as x c → l as x c) :
    Resumes R W l slots x c := by
  induction h with
  | ready h hready => exact .ready h (hk _ _ _ hready)
  | waits h hw _ ih => exact .waits h hw ih

/-- Calls that have their answers wait no longer. -/
theorem of_answers {as : Answers cs} (h : Resumes R W k slots x c)
    (has : slots.answers? = some as) : k as x c := by
  cases h with
  | ready h' hk =>
      rw [has] at h'
      cases h'
      exact hk
  | waits h' _ _ =>
      rw [has] at h'
      cases h'

/-- Calls that have not are ready for each of their replies. -/
theorem of_waiting (h : Resumes R W k slots x c)
    (hnone : slots.answers? = none) : W x c ∧
      ∀ s ∈ slots.outstanding, ∀ reply d, R c d →
        Resumes R W k (slots.deliver s.number reply d).1
          (.replied (s.answered reply) d)
          (slots.deliver s.number reply d).2 := by
  cases h with
  | ready h' _ =>
      rw [hnone] at h'
      cases h'
  | waits _ hw hs => exact ⟨hw, hs⟩

/-- What settling any reply brings about holds while calls wait, and with
their answers. -/
theorem always (hnodup : (slots.outstanding.map Sent.number).Nodup)
    (hw : W x c)
    (hsettle : ∀ (s : Sent) (reply : Reply) (d : Console),
      W (.replied (s.answered reply) d)
        (d.settle s.call s.request.token reply).2)
    (hk : ∀ as x c, W x c → k as x c) : Resumes R W k slots x c := by
  -- on the number of requests that wait: a reply leaves fewer
  generalize hn : slots.outstanding.length = n
  induction n using Nat.strongRecOn generalizing slots x c with
  | _ n ih =>
      cases h : slots.answers? with
      | some as => exact .ready h (hk as x c hw)
      | none =>
          refine .waits h hw fun s hs reply d _ => ?_
          obtain ⟨hd, hlt⟩ := slots.deliver_settles reply d hnodup hs
          have hsub := slots.deliver_outstanding s.number reply d
          refine ih _ (hn ▸ hlt) ((hsub.map _).nodup hnodup) ?_ rfl
          rw [hd]
          exact hsettle s reply d

end Resumes

/-- Sending leaves what calls that are lost at once leave. -/
theorem send_induction {P : Console → Prop}
    (hlost : ∀ c call, P c → P (c.settle call c.session.token? .lost).2)
    (cs : List Call) : ∀ (next : Nat) (c : Console), P c →
      P (send next c cs).2 := by
  induction cs with
  | nil => intro next c h; exact h
  | cons call rest ih =>
      intro next c h
      cases hr : c.request? call with
      | some request =>
          rw [send_cons_of_some hr]
          exact ih (next + 1) c h
      | none =>
          rw [send_cons_of_none hr]
          exact ih next _ (hlost c call h)

end Slots

-- ================================================================== rules

namespace Job.Ensures

variable {R : Console → Console → Prop} {W : Cause → Console → Prop}
  {α β : Type} {Q : Cause → Console → α → Prop}

/-- A weaker fact about the result is ensured as well. -/
theorem mono {P : Cause → Console → α → Prop} {j : Job α}
    (hQ : ∀ x c r, Q x c r → P x c r) : ∀ {x : Cause} {c : Console},
      j.Ensures R W Q x c → j.Ensures R W P x c := by
  induction j with
  | done result => intro x c h; exact hQ x c result h
  | read go ih => intro x c h; exact ih c h
  | act a go ih => intro x c h; exact ih _ h
  | calls cs go ih =>
      intro x c h next
      exact (h next).mono fun as x c has => ih as has

/-- A job, and another that goes on from wherever it ends. -/
theorem bind {P : Cause → Console → β → Prop} {f : α → Job β} {j : Job α} :
    ∀ {x : Cause} {c : Console},
      j.Ensures R W (fun x c r => (f r).Ensures R W P x c) x c →
      (j.bind f).Ensures R W P x c := by
  induction j with
  | done result => intro x c h; exact h
  | read go ih => intro x c h; exact ih c h
  | act a go ih => intro x c h; exact ih _ h
  | calls cs go ih =>
      intro x c h next
      exact (h next).mono fun as x c has => ih as has

/-- One call: its reply comes to a console that has changed as it may, or
it is lost at once. -/
theorem call {call : Call} {go : Answers [call] → Job α} {x : Cause}
    {c : Console}
    (hsent : ∀ request, c.request? call = some request → W x c ∧
      ∀ reply d, R c d →
        (go ((d.settle call request.token reply).1, ())).Ensures R W Q
          (.replied ⟨call, request, reply⟩ d)
          (d.settle call request.token reply).2)
    (hlost : c.request? call = none →
      (go ((c.settle call c.session.token? .lost).1, ())).Ensures R W Q x
        (c.settle call c.session.token? .lost).2) :
    (Job.calls [call] go).Ensures R W Q x c := by
  intro next
  cases h : c.request? call with
  | some request =>
      rw [Slots.send_cons_of_some h]
      obtain ⟨hw, hreply⟩ := hsent request h
      refine .waits rfl hw fun s hs reply d hd => ?_
      have hs : s = ⟨next, call, request⟩ := List.mem_singleton.1 hs
      subst hs
      simp only [Slots.deliver, if_true]
      exact .ready rfl (hreply reply d hd)
  | none =>
      rw [Slots.send_cons_of_none h]
      exact .ready rfl (hlost h)

/-- Calls that are sent together, of which it is enough to know what
settling any of them does. -/
theorem calls {cs : List Call} {go : Answers cs → Job α} {x : Cause}
    {c : Console} (hw : W x c)
    (hlost : ∀ c call, W x c →
      W x (c.settle call c.session.token? .lost).2)
    (hsettle : ∀ (s : Sent) (reply : Reply) (d : Console),
      W (.replied (s.answered reply) d)
        (d.settle s.call s.request.token reply).2)
    (hk : ∀ as x c, W x c → (go as).Ensures R W Q x c) :
    (Job.calls cs go).Ensures R W Q x c := by
  intro next
  obtain ⟨k, hk'⟩ := Slots.send_numbers cs next c
  refine Slots.Resumes.always ?_ ?_ hsettle hk
  · rw [hk']
    exact List.nodup_range'
  · exact Slots.send_induction hlost cs next c hw

end Job.Ensures

/-- Every job ensures nothing. -/
theorem Job.ensures_nothing {R : Console → Console → Prop} {α : Type}
    (j : Job α) : ∀ (x : Cause) (c : Console),
      j.Ensures R Unasked (fun _ _ _ => True) x c := by
  induction j with
  | done result => intro x c; exact trivial
  | read go ih => intro x c; exact ih c x c
  | act a go ih => intro x c; exact ih _ x _
  | calls cs go ih =>
      intro x c
      exact .calls trivial (fun _ _ _ => trivial) (fun _ _ _ => trivial)
        fun as x c _ => ih as x c

/-- A job keeps what it may also count on whenever it goes on. -/
def Job.Keeps {α : Type} (P : Cause → Console → Prop) (j : Job α) : Prop :=
  ∀ x c, P x c → j.Ensures Anyhow P (fun x c _ => P x c) x c

namespace Job.Keeps

variable {P : Cause → Console → Prop} {α β : Type}

theorem done (result : α) : (Job.done result).Keeps P := fun _ _ h => h

theorem bind {j : Job α} {f : α → Job β} (h : j.Keeps P)
    (hf : ∀ r, (f r).Keeps P) : (j.bind f).Keeps P := by
  intro x c hP
  exact Ensures.bind ((h x c hP).mono fun x c r hP => hf r x c hP)

theorem perform {a : Act} (h : ∀ x c, P x c → P x (a.apply c).2) :
    (Job.perform a).Keeps P := fun x c hP => h x c hP

/-- Calls keep what settling keeps, and what it brings about. -/
theorem calls {cs : List Call} {go : Answers cs → Job α}
    (hlost : ∀ x c call, P x c →
      P x (c.settle call c.session.token? .lost).2)
    (hsettle : ∀ (s : Sent) (reply : Reply) (d : Console),
      P (.replied (s.answered reply) d)
        (d.settle s.call s.request.token reply).2)
    (hgo : ∀ as, (go as).Keeps P) : (Job.calls cs go).Keeps P := by
  intro x c hP
  exact Ensures.calls hP (fun c call => hlost x c call) hsettle
    fun as x c => hgo as x c

end Job.Keeps

-- ========================================================= the interpreter

section
variable {R : Console → Console → Prop} {W : Cause → Console → Prop}
  {α : Type} {Q : Cause → Console → α → Prop}

/-- A job that goes on as far as it gets. -/
theorem Job.advance_ensures (next : Nat) {j : Job α} :
    ∀ {x : Cause} {c : Console}, j.Ensures R W Q x c →
      (j.advance next c).1.Ensures R W Q x (j.advance next c).2 := by
  induction j with
  | done result => intro x c h; exact .ended h
  | read go ih => intro x c h; exact ih c h
  | act a go ih => intro x c h; exact ih _ h
  | calls cs go ih =>
      intro x c h
      have hsent := h next
      cases has : (Slots.send next c cs).1.answers? with
      | some as =>
          rw [advance_calls_of_some has]
          exact ih as (hsent.of_answers has)
      | none =>
          rw [advance_calls_of_none has]
          exact .waiting has hsent

/-- A job that is handed the reply to one of its requests. -/
theorem Paused.deliver_ensures (next : Nat) {p : Paused α} {x : Cause}
    {c d : Console} {s : Sent} (h : p.Ensures R W Q x c)
    (hs : s ∈ p.outstanding) (reply : Reply) (hd : R c d) :
    (p.deliver next s.number reply d).1.Ensures R W Q
      (.replied (s.answered reply) d)
      (p.deliver next s.number reply d).2 := by
  cases h with
  | ended _ => cases hs
  | @waiting cs slots go x c hnone hwaits =>
      have hresumed := (hwaits.of_waiting hnone).2 s hs reply d hd
      cases has : (slots.deliver s.number reply d).1.answers? with
      | some as =>
          rw [deliver_of_some has]
          exact Job.advance_ensures next (hresumed.of_answers has)
      | none =>
          rw [deliver_of_none has]
          exact .waiting has hresumed

/-- A job that stands still has ended, or it waits. -/
theorem Paused.Ensures.cases {p : Paused α} {x : Cause} {c : Console}
    (h : p.Ensures R W Q x c) :
    (∃ result, p = .ended result ∧ Q x c result)
      ∨ (p.result? = none ∧ W x c) := by
  cases h with
  | ended h => exact .inl ⟨_, rfl, h⟩
  | waiting hnone hwaits => exact .inr ⟨rfl, (hwaits.of_waiting hnone).1⟩

/-- What holds whether the job ended or waits. -/
theorem Paused.Ensures.reached {p : Paused α} {x : Cause} {c : Console}
    (h : p.Ensures R W (fun x c _ => W x c) x c) : W x c := by
  rcases h.cases with ⟨_, -, h⟩ | ⟨-, h⟩
  · exact h
  · exact h

end

-- ================================================================== alone

/-- The cause of a later stretch of a job that runs alone: still the same,
or a reply of the server. -/
def Cause.LedTo {σ : Type} (server : Server σ) (x y : Cause) : Prop :=
  y = x ∨ ∃ e c s, y = .replied e c ∧ (server s e.request).1 = e.reply

theorem Cause.LedTo.trans {σ : Type} {server : Server σ} {x y z : Cause}
    (h : LedTo server x y) (k : LedTo server y z) : LedTo server x z := by
  rcases k with rfl | k
  · exact h
  · exact .inr k

namespace Slots

variable {σ : Type} (server : Server σ)

/-- Who waits for no reply asks the server nothing. -/
theorem settleAll_of_answers (s : σ) (c : Console) :
    ∀ {cs : List Call} {slots : Slots cs} {as : Answers cs},
      slots.answers? = some as → slots.settleAll server s c = (as, s, c) := by
  intro cs
  induction cs with
  | nil => intro slots as _; rfl
  | cons call rest ih =>
      rintro ⟨slot, slots⟩ as h
      cases slot with
      | pending n request => cases h
      | settled outcome =>
          obtain ⟨bs, hbs, rfl⟩ := Option.map_eq_some_iff.1 h
          simp only [settleAll, ih hbs]

/-- The server is asked for one reply after the other. -/
theorem settleAll_of_outstanding {t : Sent} {ts : List Sent} (s : σ)
    (c : Console) : ∀ {cs : List Call} (slots : Slots cs),
      slots.outstanding = t :: ts →
      slots.settleAll server s c
        = (slots.deliver t.number (server s t.request).1 c).1.settleAll
            server (server s t.request).2
            (slots.deliver t.number (server s t.request).1 c).2 := by
  intro cs
  induction cs with
  | nil => intro slots h; cases h
  | cons call rest ih =>
      rintro ⟨slot, slots⟩ h
      cases slot with
      | pending n request =>
          obtain ⟨rfl, -⟩ := List.cons.inj h
          simp only [settleAll, deliver, if_true]
      | settled outcome =>
          simp only [settleAll, deliver, ih slots h]

/-- Calls that wait get their answers from the server. -/
theorem Resumes.settleAll {W : Cause → Console → Prop} {cs : List Call}
    {k : Answers cs → Cause → Console → Prop} {slots : Slots cs}
    {x : Cause} {c : Console} (h : Resumes Eq W k slots x c) (s : σ) :
    ∃ y, x.LedTo server y
      ∧ k (slots.settleAll server s c).1 y
          (slots.settleAll server s c).2.2 := by
  induction h generalizing s with
  | ready h hk =>
      rw [settleAll_of_answers server s _ h]
      exact ⟨_, .inl rfl, hk⟩
  | @waits slots x c h _ _ ih =>
      cases hout : slots.outstanding with
      | nil =>
          obtain ⟨as, has⟩ := answers_of_outstanding hout
          rw [h] at has
          cases has
      | cons t ts =>
          rw [settleAll_of_outstanding server s c slots hout]
          have ht : t ∈ slots.outstanding := by
            rw [hout]
            exact List.mem_cons_self ..
          obtain ⟨y, hy, hk⟩ := ih t ht (server s t.request).1 c rfl
            (server s t.request).2
          exact ⟨y, .trans (.inr ⟨_, _, s, rfl, rfl⟩) hy, hk⟩

end Slots

/-- A job that runs alone against a server. -/
theorem Job.run_ensures {σ α : Type} (server : Server σ)
    {W : Cause → Console → Prop} {Q : Cause → Console → α → Prop}
    {j : Job α} : ∀ {x : Cause} {c : Console} (s : σ),
      j.Ensures Eq W Q x c →
      ∃ y, x.LedTo server y
        ∧ Q y (j.run server s c).2.2 (j.run server s c).1 := by
  induction j with
  | done result => intro x c s h; exact ⟨x, .inl rfl, h⟩
  | read go ih => intro x c s h; exact ih c s h
  | act a go ih => intro x c s h; exact ih _ s h
  | calls cs go ih =>
      intro x c s h
      obtain ⟨y, hy, hk⟩ := (h 0).settleAll server s
      obtain ⟨z, hz, hQ⟩ := ih _ _ hk
      exact ⟨z, hy.trans hz, hQ⟩

end SecurityConsole
