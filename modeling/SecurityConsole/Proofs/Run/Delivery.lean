/-
Where a reply goes, and that numbers stay apart.

A reply goes to the listener's load if that waits for it, else to the
first job that does, else nowhere (`deliver_of_reload`, `deliver_of_job`,
`deliver_of_none`). One of the three is the case (`deliver_cases`). Each
move then renews the requests of at most one job, which is all that the
invariant `Numbered` needs.
-/
import SecurityConsole.Proofs.Run.Numbering

namespace SecurityConsole.Workload

variable {α β : Type}

-- ================================================================= after

/-- A running maximum is above its start and all it runs over. -/
private theorem foldl_max_bounds (ns : List Nat) : ∀ m : Nat,
    m ≤ ns.foldl max m ∧ ∀ n ∈ ns, n ≤ ns.foldl max m := by
  induction ns with
  | nil => intro m; exact ⟨Nat.le_refl _, fun n hn => by cases hn⟩
  | cons k ns ih =>
      intro m
      obtain ⟨hle, hall⟩ := ih (max m k)
      rw [List.foldl_cons]
      refine ⟨Nat.le_trans (Nat.le_max_left ..) hle, ?_⟩
      intro n hn
      rcases List.mem_cons.1 hn with rfl | hn
      · exact Nat.le_trans (Nat.le_max_right ..) hle
      · exact hall n hn

theorem le_after (next : Nat) (p : Paused β) : next ≤ after next p :=
  (foldl_max_bounds _ next).1

/-- What follows has numbers beyond all that are under way. -/
theorem lt_after (next : Nat) (p : Paused β) {s : Sent}
    (hs : s ∈ p.outstanding) : s.number < after next p := by
  have hmem : s.number + 1 ∈ p.pending.map (·.1 + 1) := by
    rw [Paused.pending_eq, List.map_map]
    exact List.mem_map.2 ⟨s, hs, rfl⟩
  exact (foldl_max_bounds _ next).2 _ hmem

/-- The number behind those of all jobs. -/
theorem after_jobs (jobs : List (String × Paused β)) : ∀ next : Nat,
    next ≤ jobs.foldl (fun n j => after n j.2) next
      ∧ ∀ j ∈ jobs, ∀ s ∈ j.2.outstanding,
          s.number < jobs.foldl (fun n j => after n j.2) next := by
  induction jobs with
  | nil => intro next; exact ⟨Nat.le_refl _, fun j hj => by cases hj⟩
  | cons j jobs ih =>
      intro next
      obtain ⟨hle, hlt⟩ := ih (after next j.2)
      refine ⟨Nat.le_trans (le_after next j.2) hle, ?_⟩
      intro i hi s hs
      rcases List.mem_cons.1 hi with rfl | hi
      · exact Nat.lt_of_lt_of_le (lt_after next i.2 hs) hle
      · exact hlt i hi s hs

-- ============================================================= listening

/-- The workload once the listener has received a signal and begun the
load for it. -/
def received (w : Workload α) (channel : Channel) : Workload α :=
  let (p, console) := Console.loadBranding.advance w.next
    { w.console with channel := some channel }
  { w with
    console, next := after w.next p
    reload := if p.result?.isSome then none else some p }

/-- The listener receives a signal, or does nothing. -/
theorem listenOnce_cases (w : Workload α) :
    (∃ channel, w.reload = none
        ∧ w.console.channel.bind Channel.receive? = some channel
        ∧ w.listenOnce = w.received channel)
      ∨ w.listenOnce = w := by
  unfold listenOnce
  split
  · rename_i channel hr hc
    exact .inl ⟨channel, hr, hc, rfl⟩
  · exact .inr rfl

/-- What holds at first, and is kept whenever the listener looks for a
signal, holds when it is done. -/
theorem listen_induction {P : Workload α → Prop} {w : Workload α} (h : P w)
    (hstep : ∀ v, P v → P v.listenOnce) : P w.listen := by
  unfold listen
  generalize w.backlog = n
  induction n with
  | zero => exact h
  | succ n ih => exact hstep _ ih

-- ============================================================== delivery

/-- The workload once the listener's load was handed a reply, and before
the listener looks for signals again. -/
def reloaded (w : Workload α) (p : Paused Unit) (number : Nat)
    (reply : Reply) : Workload α :=
  let (p, console) := p.deliver w.next number reply w.console
  { w with
    console, next := after w.next p
    reload := if p.result?.isSome then none else some p }

/-- A reply to the listener's load: the load ends or goes on, and the
listener looks for signals. -/
theorem deliver_of_reload {w : Workload α} {p : Paused Unit} {number : Nat}
    (h : w.reload = some p) (hp : p.awaits number = true) (reply : Reply) :
    w.deliver number reply = (w.reloaded p number reply).listen := by
  unfold deliver
  rw [h]
  exact if_pos hp

/-- Whether the listener's load waits for a reply. -/
def reloadAwaits (w : Workload α) (number : Nat) : Bool :=
  w.reload.any (·.awaits number)

/-- A reply that the listener does not wait for is offered to the
jobs. -/
theorem deliver_eq_deliverToJobs {w : Workload α} {number : Nat}
    (h : w.reloadAwaits number = false) (reply : Reply) :
    w.deliver number reply = deliver.deliverToJobs w number reply := by
  unfold reloadAwaits at h
  unfold deliver
  cases hr : w.reload with
  | none => rfl
  | some p =>
      rw [hr] at h
      have hp : p.awaits number = false := h
      exact if_neg (by
        show ¬ p.awaits number = true
        rw [hp]
        exact Bool.false_ne_true)

/-- The first job that waits for it takes it. -/
theorem deliverJobs_of_job {next number : Nat} {reply : Reply} {c : Console}
    {before behind : List (String × Paused β)} {name : String}
    {p : Paused β} (hb : ∀ j ∈ before, j.2.awaits number = false)
    (hp : p.awaits number = true) :
    deliverJobs next number reply c (before ++ (name, p) :: behind)
      = (before ++ (name, (p.deliver next number reply c).1) :: behind,
          (p.deliver next number reply c).2) := by
  induction before with
  | nil =>
      have hp' : p.pending.any (·.1 = number) = true := hp
      simp only [List.nil_append, deliverJobs, hp', if_true]
  | cons j before ih =>
      have hj : j.2.pending.any (·.1 = number) = false :=
        hb j (List.mem_cons_self ..)
      have ih := ih fun i hi => hb i (List.mem_cons_of_mem _ hi)
      simp only [List.cons_append, deliverJobs, hj, Bool.false_eq_true,
        if_false, ih]

/-- If none waits for it, nothing changes. -/
theorem deliverJobs_of_none {next number : Nat} {reply : Reply}
    {c : Console} {jobs : List (String × Paused β)}
    (h : ∀ j ∈ jobs, j.2.awaits number = false) :
    deliverJobs next number reply c jobs = (jobs, c) := by
  induction jobs with
  | nil => rfl
  | cons j jobs ih =>
      have hj : j.2.pending.any (·.1 = number) = false :=
        h j (List.mem_cons_self ..)
      have ih := ih fun i hi => h i (List.mem_cons_of_mem _ hi)
      simp only [deliverJobs, hj, Bool.false_eq_true, if_false, ih]

/-- A job that waits for a reply is the first that does, behind some that
do not. -/
theorem jobs_cases (jobs : List (String × Paused β)) (number : Nat) :
    (∀ j ∈ jobs, j.2.awaits number = false)
      ∨ ∃ before name p behind, jobs = before ++ (name, p) :: behind
          ∧ (∀ j ∈ before, j.2.awaits number = false)
          ∧ p.awaits number = true := by
  induction jobs with
  | nil => exact .inl fun j hj => by cases hj
  | cons j jobs ih =>
      cases hj : j.2.awaits number with
      | true =>
          refine .inr ⟨[], j.1, j.2, jobs, rfl, ?_, hj⟩
          intro i hi
          cases hi
      | false =>
          rcases ih with ih | ⟨before, name, p, behind, rfl, hb, hp⟩
          · refine .inl fun i hi => ?_
            rcases List.mem_cons.1 hi with rfl | hi
            · exact hj
            · exact ih i hi
          · refine .inr ⟨j :: before, name, p, behind, rfl, ?_, hp⟩
            intro i hi
            rcases List.mem_cons.1 hi with rfl | hi
            · exact hj
            · exact hb i hi

/-- The workload once a job in the list was handed a reply. -/
def handed (w : Workload α) (before : List (String × Paused α))
    (name : String) (p : Paused α) (behind : List (String × Paused α))
    (number : Nat) (reply : Reply) : Workload α :=
  let (p, console) := p.deliver w.next number reply w.console
  let jobs := before ++ (name, p) :: behind
  { w with
    console, jobs, next := jobs.foldl (fun n j => after n j.2) w.next }

/-- A reply to a job changes that job and the console, and starts
nothing else. -/
theorem deliver_of_job {w : Workload α} {number : Nat}
    {before behind : List (String × Paused α)} {name : String}
    {p : Paused α} (hr : w.reloadAwaits number = false)
    (hw : w.jobs = before ++ (name, p) :: behind)
    (hb : ∀ j ∈ before, j.2.awaits number = false)
    (hp : p.awaits number = true) (reply : Reply) :
    w.deliver number reply = w.handed before name p behind number reply := by
  rw [deliver_eq_deliverToJobs hr]
  unfold deliver.deliverToJobs
  rw [hw, deliverJobs_of_job hb hp]
  rfl

/-- A reply that nobody waits for changes at most the next number. -/
theorem deliver_of_none {w : Workload α} {number : Nat}
    (hr : w.reloadAwaits number = false)
    (hj : ∀ j ∈ w.jobs, j.2.awaits number = false) (reply : Reply) :
    w.deliver number reply
      = { w with next := w.jobs.foldl (fun n j => after n j.2) w.next } := by
  rw [deliver_eq_deliverToJobs hr]
  unfold deliver.deliverToJobs
  rw [deliverJobs_of_none hj]

/-- The jobs behind a new one are the old ones, and it. -/
theorem mem_begin {w : Workload α} {name : String} {t : Job α}
    {j : String × Paused α} (hj : j ∈ (w.begin name t).jobs) :
    j ∈ w.jobs ∨ j = (name, (t.advance w.next w.console).1) :=
  (List.mem_append.1 hj).imp_right List.mem_singleton.1

section
variable {w : Workload α} {before behind : List (String × Paused α)}
  {name : String} {p : Paused α}

theorem mem_jobs (hw : w.jobs = before ++ (name, p) :: behind) :
    (name, p) ∈ w.jobs := by
  rw [hw]
  exact List.mem_append_right _ List.mem_cons_self

/-- A job of the workload behind a reply is one from before, or the one
that got the reply. -/
theorem mem_handed (hw : w.jobs = before ++ (name, p) :: behind)
    {number : Nat} {reply : Reply} {j : String × Paused α}
    (hj : j ∈ (w.handed before name p behind number reply).jobs) :
    j ∈ w.jobs ∨ j = (name, (p.deliver w.next number reply w.console).1) := by
  have hj : j ∈ before
      ++ (name, (p.deliver w.next number reply w.console).1) :: behind := hj
  rw [hw]
  rcases List.mem_append.1 hj with hbefore | hj
  · exact .inl (List.mem_append_left _ hbefore)
  · rcases List.mem_cons.1 hj with heq | hbehind
    · exact .inr heq
    · exact .inl (List.mem_append_right _ (List.mem_cons_of_mem _ hbehind))

end

/-- Where a reply goes: to the listener's load, to a job, or nowhere. -/
theorem deliver_cases (w : Workload α) (number : Nat) (reply : Reply) :
    (∃ p, w.reload = some p ∧ p.awaits number = true
        ∧ w.deliver number reply = (w.reloaded p number reply).listen)
      ∨ (∃ before name p behind, w.reloadAwaits number = false
          ∧ w.jobs = before ++ (name, p) :: behind
          ∧ (∀ j ∈ before, j.2.awaits number = false)
          ∧ p.awaits number = true
          ∧ w.deliver number reply
              = w.handed before name p behind number reply)
      ∨ (w.reloadAwaits number = false
          ∧ (∀ j ∈ w.jobs, j.2.awaits number = false)
          ∧ w.deliver number reply
              = { w with
                  next := w.jobs.foldl (fun n j => after n j.2) w.next }) := by
  cases hr : w.reloadAwaits number with
  | true =>
      obtain ⟨p, hw, hp⟩ := (Option.any_eq_true _ _).1 hr
      exact .inl ⟨p, hw, hp, deliver_of_reload hw hp reply⟩
  | false =>
      rcases jobs_cases w.jobs number with
        hj | ⟨before, name, p, behind, hw, hb, hp⟩
      · exact .inr (.inr ⟨rfl, hj, deliver_of_none hr hj reply⟩)
      · exact .inr (.inl ⟨before, name, p, behind, rfl, hw, hb, hp,
          deliver_of_job hr hw hb hp reply⟩)

-- =============================================================== numbered

/-- The requests that a load of the listener waits for. -/
def loadOutstanding : Option (Paused Unit) → List Sent
  | some p => p.outstanding
  | none => []

/-- What is under way is of the jobs, or of the listener's load. -/
theorem outstanding_eq (w : Workload α) :
    w.outstanding
      = w.jobs.flatMap (·.2.outstanding) ++ loadOutstanding w.reload := by
  unfold outstanding loadOutstanding
  cases w.reload <;> rfl

theorem reload_outstanding_sublist {w : Workload α} {p : Paused Unit}
    (h : w.reload = some p) : p.outstanding.Sublist w.outstanding := by
  rw [outstanding_eq, h]
  exact List.sublist_append_right _ _

theorem job_outstanding_sublist {w : Workload α}
    {before behind : List (String × Paused α)} {name : String}
    {p : Paused α} (hw : w.jobs = before ++ (name, p) :: behind) :
    p.outstanding.Sublist w.outstanding := by
  rw [outstanding_eq, hw, List.flatMap_append, List.flatMap_cons,
    List.append_assoc, List.append_assoc]
  exact (List.sublist_append_left _ _).trans
    (List.sublist_append_right _ _)

/-- A load that has ended waits for nothing, so it may be dropped. -/
theorem loadOutstanding_unless_ended (p : Paused Unit) :
    loadOutstanding (if p.result?.isSome then none else some p)
      = p.outstanding := by
  cases p with
  | ended result => rfl
  | waiting slots go => rfl

/-- A load that goes on is the load that there was. -/
theorem unless_ended {p q : Paused Unit}
    (h : (if p.result?.isSome then none else some p) = some q) : q = p := by
  cases p with
  | ended result => cases h
  | waiting slots go =>
      cases h
      rfl

/-- The console that a received signal leaves. -/
theorem received_console (w : Workload α) (channel : Channel) :
    (w.received channel).console
      = (Console.loadBranding.advance w.next
          { w.console with channel := some channel }).2 := by
  unfold received
  generalize Console.loadBranding.advance w.next _ = r
  rfl

/-- Numbers go on behind the load that a signal starts. -/
theorem received_next (w : Workload α) (channel : Channel) :
    (w.received channel).next
      = after w.next (Console.loadBranding.advance w.next
          { w.console with channel := some channel }).1 := by
  unfold received
  generalize Console.loadBranding.advance w.next _ = r
  rfl

/-- Listening leaves the jobs alone. -/
theorem received_jobs (w : Workload α) (channel : Channel) :
    (w.received channel).jobs = w.jobs := by
  unfold received
  generalize Console.loadBranding.advance w.next _ = r
  rfl

/-- Listening leaves the jobs. -/
theorem listen_jobs (w : Workload α) : w.listen.jobs = w.jobs := by
  refine listen_induction (P := fun v => v.jobs = w.jobs) rfl fun v hv => ?_
  rcases v.listenOnce_cases with ⟨channel, -, -, hd⟩ | hd
  · rw [hd, received_jobs, hv]
  · rw [hd, hv]

/-- A received signal leaves the requests of the jobs, and those of its
load. -/
theorem received_outstanding (w : Workload α) (channel : Channel) :
    (w.received channel).outstanding
      = w.jobs.flatMap (·.2.outstanding)
          ++ (Console.loadBranding.advance w.next
            { w.console with channel := some channel }).1.outstanding := by
  unfold received
  generalize Console.loadBranding.advance w.next _ = r
  obtain ⟨p, console⟩ := r
  rw [outstanding_eq, loadOutstanding_unless_ended]

/-- Every request under way has a number of its own, below the next. -/
def Numbered (w : Workload α) : Prop := Fresh w.next w.outstanding

/-- A task that begins takes numbers beyond all that are under way. -/
theorem begin_numbered {w : Workload α} (h : w.Numbered) (name : String)
    (t : Job α) : (w.begin name t).Numbered := by
  unfold Numbered at h ⊢
  rw [outstanding_eq] at h ⊢
  have hout : (w.begin name t).jobs.flatMap (·.2.outstanding)
      = w.jobs.flatMap (·.2.outstanding)
          ++ (t.advance w.next w.console).1.outstanding := by
    simp only [begin, List.flatMap_append, List.flatMap_cons,
      List.flatMap_nil, List.append_nil]
  have hold : Fresh w.next (w.jobs.flatMap (·.2.outstanding) ++ []
      ++ loadOutstanding w.reload) := by
    rw [List.append_nil]
    exact h
  rw [hout]
  refine Fresh.renew hold (.inr (Job.advance_numbers _ _ _))
    (le_after _ _) ?_
  intro s hs
  exact lt_after _ _ hs

/-- So does the load that a signal starts. The listener was idle, so
that the load takes the place of none. -/
theorem received_numbered {w : Workload α} (h : w.Numbered)
    (hr : w.reload = none) (channel : Channel) :
    (w.received channel).Numbered := by
  have hnew := Job.advance_numbers w.next Console.loadBranding
    { w.console with channel := some channel }
  have hold : Fresh w.next
      (w.jobs.flatMap (·.2.outstanding) ++ [] ++ []) := by
    unfold Numbered at h
    rw [outstanding_eq, hr] at h
    simpa only [loadOutstanding, List.append_nil] using h
  unfold Numbered
  rw [received_outstanding, received_next, ← List.append_nil (_ ++ _)]
  refine Fresh.renew hold (.inr hnew) (le_after _ _) ?_
  intro s hs
  exact lt_after _ _ hs

theorem listenOnce_numbered {w : Workload α} (h : w.Numbered) :
    w.listenOnce.Numbered := by
  rcases w.listenOnce_cases with ⟨channel, hr, -, hw⟩ | hw
  · rw [hw]
    exact received_numbered h hr channel
  · rw [hw]
    exact h

theorem listen_numbered {w : Workload α} (h : w.Numbered) :
    w.listen.Numbered :=
  listen_induction h fun _ => listenOnce_numbered

/-- A reply to the listener's load renews the requests of that load. -/
theorem reloaded_numbered {w : Workload α} {p : Paused Unit}
    (h : w.Numbered) (hr : w.reload = some p) (number : Nat)
    (reply : Reply) : (w.reloaded p number reply).Numbered := by
  unfold Numbered at h ⊢
  rw [outstanding_eq] at h ⊢
  unfold reloaded
  rw [loadOutstanding_unless_ended]
  rw [hr] at h
  rw [← List.append_nil (_ ++ _)] at h ⊢
  refine Fresh.renew h (Paused.deliver_renewed _ _ _ _ _)
    (le_after _ _) ?_
  intro s hs
  exact lt_after _ _ hs

/-- A reply to a job renews the requests of that job: those that stay
keep their numbers, new ones get numbers beyond all others. -/
theorem handed_numbered {w : Workload α}
    {before behind : List (String × Paused α)} {name : String}
    {p : Paused α} (h : w.Numbered)
    (hw : w.jobs = before ++ (name, p) :: behind) (number : Nat)
    (reply : Reply) :
    (w.handed before name p behind number reply).Numbered := by
  have hsplit : ∀ q : Paused α,
      (before ++ (name, q) :: behind).flatMap (·.2.outstanding)
          ++ loadOutstanding w.reload
        = before.flatMap (·.2.outstanding) ++ q.outstanding
            ++ (behind.flatMap (·.2.outstanding)
              ++ loadOutstanding w.reload) := by
    intro q
    simp only [List.flatMap_append, List.flatMap_cons, List.append_assoc]
  have hjobs := after_jobs
    (before ++ (name, (p.deliver w.next number reply w.console).1) :: behind)
    w.next
  unfold Numbered at h ⊢
  rw [outstanding_eq, hw, hsplit] at h
  rw [outstanding_eq]
  show Fresh _ ((before ++ (name, (p.deliver w.next number reply
    w.console).1) :: behind).flatMap (·.2.outstanding)
      ++ loadOutstanding w.reload)
  rw [hsplit]
  -- the requests of the others stand before and behind those that are
  -- renewed
  refine Fresh.renew h (Paused.deliver_renewed _ _ _ _ _) hjobs.1 ?_
  intro s hs
  exact hjobs.2 _ (List.mem_append_right _ (List.mem_cons_self ..)) s hs

/-- A reply keeps the numbers apart, wherever it goes. -/
theorem deliver_numbered {w : Workload α} (h : w.Numbered) (number : Nat)
    (reply : Reply) : (w.deliver number reply).Numbered := by
  rcases w.deliver_cases number reply with
    ⟨p, hr, -, hd⟩ | ⟨before, name, p, behind, -, hw, -, -, hd⟩
      | ⟨-, -, hd⟩
  · rw [hd]
    exact listen_numbered (reloaded_numbered h hr number reply)
  · rw [hd]
    exact handed_numbered h hw number reply
  · rw [hd]
    refine ⟨h.distinct, fun s hs => ?_⟩
    exact Nat.lt_of_lt_of_le (h.below s hs) (after_jobs _ _).1

/-- Taking reports leaves the requests under way. -/
theorem collect_outstanding (w : Workload α) :
    w.collect.2.outstanding = w.outstanding := by
  rw [outstanding_eq, outstanding_eq]
  show (w.jobs.filter _).flatMap _ ++ _ = _
  congr 1
  induction w.jobs with
  | nil => rfl
  | cons j jobs ih =>
      rw [List.filter_cons, List.flatMap_cons]
      split
      · rw [List.flatMap_cons, ih]
      · rename_i hended
        have hnil : j.2.outstanding = [] := by
          cases hj : j.2 with
          | ended result => rfl
          | waiting slots go =>
              rw [hj] at hended
              exact absurd rfl hended
        rw [ih, hnil, List.nil_append]

/-- Every move keeps the numbers apart. -/
theorem step_numbered {w : Workload Report} (h : w.Numbered) (m : Move) :
    (w.step m).Numbered := by
  cases m with
  | begin name task => exact begin_numbered h name task.job
  | reply number reply => exact deliver_numbered h number reply
  | signal => exact h
  | listen => exact listen_numbered h
  | collect =>
      unfold Numbered
      show Fresh w.next w.collect.2.outstanding
      rw [collect_outstanding]
      exact h

/-- In every run of a new console, numbers stay apart. -/
theorem run_numbered (baseUrl : String) (storage : Storage)
    (ms : List Move) : ((Console.fresh baseUrl storage).run ms).Numbered := by
  have h : (Console.fresh baseUrl storage).Numbered := Fresh.empty 0
  exact run_induction h (fun _ m h => step_numbered h m) ms

end SecurityConsole.Workload
