/-
What every job in a run ensures.

A `Promise` says what holds whenever a task, or a load of the listener,
has gone on for a stretch, and that the jobs do ensure this. Then it holds
of all jobs in every run, however they take turns (`run_keeps`): of a job
that was just begun (`begin_ensures`), and of one that was just handed a
reply (`reply_cases`).
-/
import SecurityConsole.Proofs.Job.Ensures
import SecurityConsole.Proofs.Run.Delivery

namespace SecurityConsole

/-- What is promised of tasks and of the listener's loads, whatever else
happens while they wait. -/
structure Promise where
  waiting : Task → Cause → Console → Prop
  ended : Task → Cause → Console → Report → Prop
  loading : Cause → Console → Prop
  task : ∀ (t : Task) (c : Console),
    t.job.Ensures Anyhow (waiting t) (ended t) (.begun c) c
  load : ∀ c : Console, Console.loadBranding.Ensures Anyhow loading
    (fun x c _ => loading x c) (.begun c) c

namespace Workload

/-- All jobs of a workload keep a promise. -/
structure Keeps (P : Promise) (w : Workload Report) : Prop where
  jobs : ∀ j ∈ w.jobs, ∃ t x c,
    j.2.Ensures Anyhow (P.waiting t) (P.ended t) x c
  reload : ∀ p, w.reload = some p →
    ∃ x c, p.Ensures Anyhow P.loading (fun x c _ => P.loading x c) x c

variable {P : Promise} {w : Workload Report}

/-- A job that was just begun. -/
theorem begin_ensures (P : Promise) (w : Workload Report) (name : String)
    (t : Task) :
    (t.job.advance w.next w.console).1.Ensures Anyhow (P.waiting t)
      (P.ended t) (.begun w.console) (w.begin name t.job).console :=
  Job.advance_ensures w.next (P.task t w.console)

/-- A task that begins adds a job that keeps the promise by its own
rule. -/
theorem begin_keeps (h : w.Keeps P) (name : String) (t : Task) :
    (w.begin name t.job).Keeps P := by
  refine ⟨?_, h.reload⟩
  intro j hj
  rcases mem_begin hj with hj | rfl
  · exact h.jobs j hj
  · exact ⟨t, _, _, begin_ensures P w name t⟩

-- ================================================================= loads

/-- A load that was just begun. -/
theorem received_ensures (P : Promise) (w : Workload Report)
    (channel : Channel) :
    (Console.loadBranding.advance w.next
        { w.console with channel := some channel }).1.Ensures Anyhow
      P.loading (fun x c _ => P.loading x c)
      (.begun { w.console with channel := some channel })
      (w.received channel).console := by
  have hload := P.load { w.console with channel := some channel }
  rw [received_console]
  revert hload
  -- the rule holds of any job, and this one is not to be run here
  generalize Console.loadBranding = j
  intro hload
  exact Job.advance_ensures w.next hload

/-- A load of the listener keeps it by the rule for loads. -/
theorem received_keeps (h : w.Keeps P) (channel : Channel) :
    (w.received channel).Keeps P := by
  have hload := received_ensures P w channel
  unfold received at hload ⊢
  revert hload
  generalize Console.loadBranding.advance w.next _ = r
  intro hload
  refine ⟨h.jobs, ?_⟩
  intro q hq
  rw [unless_ended hq]
  exact ⟨_, _, hload⟩

theorem listenOnce_keeps (h : w.Keeps P) : w.listenOnce.Keeps P := by
  rcases w.listenOnce_cases with ⟨channel, -, -, hw⟩ | hw
  · rw [hw]
    exact received_keeps h channel
  · rw [hw]
    exact h

theorem listen_keeps (h : w.Keeps P) : w.listen.Keeps P :=
  listen_induction h fun _ => listenOnce_keeps

-- ================================================================ replies

/-- What a reply to a request under way does: the listener's load goes on
with it, and then the listener; or one of the jobs goes on. -/
theorem reply_cases (hw : w.Keeps P) (number : Nat) (reply : Reply) :
    (∃ p s, w.reload = some p ∧ s ∈ w.outstanding ∧ s.number = number
        ∧ (p.deliver w.next number reply w.console).1.Ensures Anyhow
            P.loading (fun x c _ => P.loading x c)
            (.replied (s.answered reply) w.console)
            (w.reloaded p number reply).console
        ∧ w.deliver number reply = (w.reloaded p number reply).listen)
      ∨ (∃ before name p behind t s,
          w.jobs = before ++ (name, p) :: behind
          ∧ s ∈ p.outstanding ∧ s ∈ w.outstanding ∧ s.number = number
          ∧ (p.deliver w.next number reply w.console).1.Ensures Anyhow
              (P.waiting t) (P.ended t)
              (.replied (s.answered reply) w.console)
              (w.handed before name p behind number reply).console
          ∧ w.deliver number reply
              = w.handed before name p behind number reply)
      ∨ ((w.deliver number reply).console = w.console
          ∧ (w.deliver number reply).jobs = w.jobs
          ∧ (w.deliver number reply).reload = w.reload) := by
  rcases w.deliver_cases number reply with
    ⟨p, hr, hp, hd⟩ | ⟨before, name, p, behind, -, hjobs, -, hp, hd⟩
      | ⟨-, -, hd⟩
  · obtain ⟨s, hs, rfl⟩ := Paused.awaits_iff.1 hp
    obtain ⟨x, c, hload⟩ := hw.reload p hr
    refine .inl ⟨p, s, hr, ?_, rfl, ?_, hd⟩
    · exact (reload_outstanding_sublist hr).subset hs
    · exact Paused.deliver_ensures w.next hload hs reply trivial
  · obtain ⟨s, hs, rfl⟩ := Paused.awaits_iff.1 hp
    obtain ⟨t, x, c, hjob⟩ := hw.jobs (name, p) (mem_jobs hjobs)
    refine .inr (.inl ⟨before, name, p, behind, t, s, hjobs, hs, ?_, rfl, ?_,
      hd⟩)
    · exact (job_outstanding_sublist hjobs).subset hs
    · exact Paused.deliver_ensures w.next hjob hs reply trivial
  · rw [hd]
    exact .inr (.inr ⟨rfl, rfl, rfl⟩)

/-- A reply carries one job on, which keeps the promise in the next
stretch too, and leaves the others. -/
theorem deliver_keeps (h : w.Keeps P) (number : Nat) (reply : Reply) :
    (w.deliver number reply).Keeps P := by
  rcases reply_cases h number reply with
    ⟨p, s, hr, -, -, hload, hd⟩ | ⟨before, name, p, behind, t, s, hjobs,
      -, -, -, hjob, hd⟩ | ⟨-, hj, hr⟩
  · rw [hd]
    refine listen_keeps ⟨h.jobs, ?_⟩
    intro q hq
    rw [unless_ended hq]
    exact ⟨_, _, hload⟩
  · rw [hd]
    refine ⟨?_, h.reload⟩
    intro j hj
    rcases mem_handed hjobs hj with hj | rfl
    · exact h.jobs j hj
    · exact ⟨t, _, _, hjob⟩
  · refine ⟨?_, ?_⟩
    · rw [hj]
      exact h.jobs
    · rw [hr]
      exact h.reload

-- =================================================================== runs

/-- So every move keeps all promises. -/
theorem step_keeps (h : w.Keeps P) (m : Move) : (w.step m).Keeps P := by
  cases m with
  | begin name task => exact begin_keeps h name task
  | reply number reply => exact deliver_keeps h number reply
  | signal => exact ⟨h.jobs, h.reload⟩
  | listen => exact listen_keeps h
  | collect =>
      exact ⟨fun j hj => h.jobs j (List.mem_filter.1 hj).1, h.reload⟩

/-- In every run of a new console, all jobs keep a promise. -/
theorem run_keeps (P : Promise) (baseUrl : String) (storage : Storage)
    (ms : List Move) : ((Console.fresh baseUrl storage).run ms).Keeps P := by
  have h : (Console.fresh baseUrl storage).Keeps P :=
    ⟨fun j hj => (by cases hj), fun p hp => (by cases hp)⟩
  exact run_induction h (fun _ m h => step_keeps h m) ms

-- ============================================================ ended jobs

/-- An entry of a list with one more at the end. -/
theorem getElem?_appended {β : Type} {l : List β} {b e : β} {i : Nat}
    (h : (l ++ [b])[i]? = some e) : l[i]? = some e ∨ e = b := by
  rcases Nat.lt_or_ge i l.length with hlt | hge
  · rw [List.getElem?_append_left hlt] at h
    exact .inl h
  · rw [List.getElem?_append_right hge] at h
    exact .inr (List.mem_singleton.1 (List.mem_of_getElem? h))

/-- An entry of a list in which one was replaced. -/
theorem getElem?_replaced {β : Type} {before behind : List β} {b d e : β}
    {i : Nat} (h : (before ++ d :: behind)[i]? = some e) :
    (before ++ b :: behind)[i]? = some e
      ∨ (e = d ∧ (before ++ b :: behind)[i]? = some b) := by
  rcases Nat.lt_or_ge i before.length with hlt | hge
  · rw [List.getElem?_append_left hlt] at h ⊢
    exact .inl h
  · rw [List.getElem?_append_right hge] at h ⊢
    cases hi : i - before.length with
    | zero =>
        rw [hi, List.getElem?_cons_zero] at h
        exact .inr ⟨(Option.some.inj h).symm, List.getElem?_cons_zero⟩
    | succ k =>
        rw [hi, List.getElem?_cons_succ] at h
        exact .inl h

/-- A job that ends in a move is one that was just begun, or one that was
just handed the reply to one of its requests; and it ends as promised. -/
theorem ended_in_step (hw : w.Keeps P) {m : Move} {i : Nat} {name : String}
    {report : Report}
    (hafter : (w.step m).jobs[i]? = some (name, .ended report))
    (hbefore : ∀ r, w.jobs[i]? ≠ some (name, .ended r)) :
    (∃ t, m = .begin name t
        ∧ P.ended t (.begun w.console) (w.step m).console report)
      ∨ ∃ t p s reply, m = .reply s.number reply
        ∧ w.jobs[i]? = some (name, p) ∧ s ∈ p.outstanding
        ∧ s ∈ w.outstanding
        ∧ P.ended t (.replied (s.answered reply) w.console)
            (w.step m).console report := by
  cases m with
  | begin other t =>
      rcases getElem?_appended hafter with hold | hnew
      · exact absurd hold (hbefore report)
      · obtain ⟨rfl, hended⟩ := Prod.mk.inj hnew
        have hjob := begin_ensures P w name t
        rw [← hended] at hjob
        cases hjob with
        | ended hended => exact .inl ⟨t, rfl, hended⟩
  | reply number reply =>
      have hafter : (w.deliver number reply).jobs[i]?
          = some (name, .ended report) := hafter
      rcases reply_cases hw number reply with
        ⟨p, s, -, -, rfl, -, hd⟩
          | ⟨before, other, p, behind, t, s, hjobs, hs, hout, rfl, hjob, hd⟩
          | ⟨-, hj, -⟩
      · rw [hd, listen_jobs] at hafter
        exact absurd hafter (hbefore report)
      · rw [hd] at hafter
        rcases getElem?_replaced (b := (other, p)) hafter with hold | hnew
        · rw [← hjobs] at hold
          exact absurd hold (hbefore report)
        · obtain ⟨hnew, hold⟩ := hnew
          obtain ⟨rfl, -⟩ := Prod.mk.inj hnew
          have hended : (p.deliver w.next s.number reply w.console).1
              = .ended report := (Prod.mk.inj hnew).2.symm
          rw [hended] at hjob
          cases hjob with
          | ended hended =>
              refine .inr ⟨t, p, s, reply, rfl, ?_, hs, hout, ?_⟩
              · rw [hjobs]
                exact hold
              · show P.ended t _ (w.deliver s.number reply).console report
                rw [hd]
                exact hended
      · rw [hj] at hafter
        exact absurd hafter (hbefore report)
  | signal => exact absurd hafter (hbefore report)
  | listen =>
      have hafter : w.listen.jobs[i]? = some (name, .ended report) := hafter
      rw [listen_jobs] at hafter
      exact absurd hafter (hbefore report)
  | collect =>
      -- no ended job is left
      have hmem := List.mem_of_getElem? hafter
      have hkept := (List.mem_filter.1 hmem).2
      cases hkept

end Workload
end SecurityConsole
