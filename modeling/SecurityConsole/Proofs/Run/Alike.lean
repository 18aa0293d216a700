/-
Runs of one console on two storages.

Two workloads go together if they differ in nothing but the storage, and
their jobs do not look at it (`Workload.Together`). Every move keeps them
together, and the same happens in both (`Together.step`). So a storage that
refuses writes is not noticed as long as the console runs: everything else
is as it would be on a storage that never fails
(`run_storage_unnoticed`).
-/
import SecurityConsole.Proofs.Job.Blind
import SecurityConsole.Proofs.Run.History

namespace SecurityConsole

open Console (SameStep)

namespace Workload

section
variable {α : Type}

/-- The workload on another storage. -/
def onStorage (w : Workload α) (storage : Storage) : Workload α :=
  { w with console := w.console.onStorage storage }

/-- Workloads that differ at most in their storage, and whose jobs do not
look at it. -/
structure Together (v w : Workload α) : Prop where
  alike : ∃ storage, w = v.onStorage storage
  jobs : ∀ j ∈ v.jobs, j.2.Blind
  reload : ∀ p, v.reload = some p → p.Blind

namespace Together

variable {v w : Workload α}

/-- The consoles of such workloads are alike. -/
theorem console (h : Together v w) : v.console.Alike w.console := by
  obtain ⟨storage, rfl⟩ := h.alike
  exact ⟨storage, rfl⟩

theorem reload_eq (h : Together v w) : w.reload = v.reload := by
  obtain ⟨storage, rfl⟩ := h.alike
  rfl

/-- A blind job begins alike: it waits with the same slots, and is still
blind where it waits. -/
theorem begin (h : Together v w) (name : String) {t : Job α}
    (ht : t.Blind) :
    Together (v.begin name t) (w.begin name t)
      ∧ t.trail w.next w.console = t.trail v.next v.console := by
  obtain ⟨⟨hpaused, halike⟩, htrail, hblind⟩ := ht.advance v.next h.console
  obtain ⟨storage, rfl⟩ := h.alike
  refine ⟨⟨?_, ?_, h.reload⟩, htrail⟩
  · obtain ⟨other, hother⟩ := halike
    refine ⟨other, ?_⟩
    unfold Workload.begin onStorage at *
    simp only [hpaused, hother]
  · intro j hj
    rcases mem_begin hj with hj | rfl
    · exact h.jobs j hj
    · exact hblind

/-- A signal that was received starts the same load on both. -/
theorem received (h : Together v w) (channel : Channel) :
    Together (v.received channel) (w.received channel)
      ∧ Console.loadBranding.trail w.next
          { w.console with channel := some channel }
        = Console.loadBranding.trail v.next
          { v.console with channel := some channel } := by
  have hblind := Console.loadBranding_blind
  unfold Workload.received
  revert hblind
  -- what follows is true of any blind job
  generalize Console.loadBranding = load
  intro hblind
  obtain ⟨storage, rfl⟩ := h.alike
  have hconsole : Console.Alike
      { v.console with channel := some channel }
      { (v.onStorage storage).console with channel := some channel } :=
    ⟨storage, rfl⟩
  obtain ⟨⟨hpaused, halike⟩, htrail, hload⟩ :=
    hblind.advance v.next hconsole
  refine ⟨⟨?_, h.jobs, fun q hq => unless_ended hq ▸ hload⟩, htrail⟩
  obtain ⟨other, hother⟩ := halike
  refine ⟨other, ?_⟩
  unfold onStorage at *
  simp only [hpaused, hother]

/-- One turn of the listener. Whether it may read, and what it reads, is
seen from the reload under way and from the channel, which are the same
on both. -/
theorem listenOnce (h : Together v w) :
    Together v.listenOnce w.listenOnce
      ∧ w.listenOnceTrail = v.listenOnceTrail := by
  have hchannel : w.console.channel = v.console.channel := by
    obtain ⟨storage, rfl⟩ := h.alike
    rfl
  unfold Workload.listenOnce listenOnceTrail
  rw [h.reload_eq, hchannel]
  cases hr : v.reload with
  | some p => exact ⟨h, rfl⟩
  | none =>
      cases hc : v.console.channel.bind Channel.receive? with
      | none => exact ⟨h, rfl⟩
      | some channel =>
          obtain ⟨hreceived, htrail⟩ := h.received channel
          refine ⟨hreceived, ?_⟩
          simp only [htrail]

/-- As many turns of the listener as one likes. -/
theorem listenFor (h : Together v w) : ∀ n : Nat,
    Together (n.repeat Workload.listenOnce v)
        (n.repeat Workload.listenOnce w)
      ∧ w.listenTrail n = v.listenTrail n := by
  intro n
  induction n with
  | zero => exact ⟨h, rfl⟩
  | succ n ih =>
      obtain ⟨hnext, htrail⟩ := ih.1.listenOnce
      refine ⟨hnext, ?_⟩
      rw [listenTrail, listenTrail, ih.2, htrail]

/-- The backlog is the same on both, and so are the turns the listener
takes. -/
theorem listen (h : Together v w) :
    Together v.listen w.listen
      ∧ w.listenTrail w.backlog = v.listenTrail v.backlog := by
  have hbacklog : w.backlog = v.backlog := by
    obtain ⟨storage, rfl⟩ := h.alike
    rfl
  unfold Workload.listen
  rw [hbacklog]
  exact h.listenFor v.backlog

/-- The reload of the listener is handed its reply alike. -/
theorem reloaded (h : Together v w) {p : Paused Unit}
    (hr : v.reload = some p) (number : Nat) (reply : Reply) :
    Together (v.reloaded p number reply) (w.reloaded p number reply)
      ∧ p.deliverTrail w.next number reply w.console
        = p.deliverTrail v.next number reply v.console := by
  obtain ⟨⟨hpaused, halike⟩, htrail, hblind⟩ :=
    (h.reload p hr).deliver h.console v.next number reply
  obtain ⟨storage, rfl⟩ := h.alike
  refine ⟨⟨?_, h.jobs, fun q hq => unless_ended hq ▸ hblind⟩, htrail⟩
  obtain ⟨other, hother⟩ := halike
  refine ⟨other, ?_⟩
  unfold Workload.reloaded onStorage at *
  simp only [hpaused, hother]

/-- The job of a name is handed its reply alike. -/
theorem handed (h : Together v w)
    {before behind : List (String × Paused α)} {name : String}
    {p : Paused α} (hjobs : v.jobs = before ++ (name, p) :: behind)
    (number : Nat) (reply : Reply) :
    Together (v.handed before name p behind number reply)
        (w.handed before name p behind number reply)
      ∧ p.deliverTrail w.next number reply w.console
        = p.deliverTrail v.next number reply v.console := by
  obtain ⟨⟨hpaused, halike⟩, htrail, hblind⟩ :=
    (h.jobs (name, p) (mem_jobs hjobs)).deliver h.console v.next number reply
  obtain ⟨storage, rfl⟩ := h.alike
  refine ⟨⟨?_, ?_, h.reload⟩, htrail⟩
  · obtain ⟨other, hother⟩ := halike
    refine ⟨other, ?_⟩
    unfold Workload.handed onStorage at *
    simp only [hpaused, hother]
  · intro j hj
    rcases mem_handed hjobs hj with hj | rfl
    · exact h.jobs j hj
    · exact hblind

/-- A reply finds the same addressee on both: who waits for its number
is seen from the jobs and the reload, and they are the same. -/
theorem deliver (h : Together v w) (number : Nat) (reply : Reply) :
    Together (v.deliver number reply) (w.deliver number reply)
      ∧ w.deliverTrail number reply = v.deliverTrail number reply := by
  have hjobs : w.jobs = v.jobs := by
    obtain ⟨storage, rfl⟩ := h.alike
    rfl
  have hawaits : w.reloadAwaits number = v.reloadAwaits number := by
    unfold reloadAwaits
    rw [h.reload_eq]
  rcases v.deliver_cases number reply with
    ⟨p, hr, hp, hd⟩ | ⟨before, name, p, behind, hr, hv, hb, hp, hd⟩
      | ⟨hr, hj, hd⟩
  -- to the reload of the listener, which then reads on
  · obtain ⟨hgo, htrail⟩ := h.reloaded hr number reply
    obtain ⟨hlisten, hheard⟩ := hgo.listen
    rw [hd, deliver_of_reload (h.reload_eq.trans hr) hp,
      deliverTrail_of_reload hr hp,
      deliverTrail_of_reload (h.reload_eq.trans hr) hp, htrail, hheard]
    exact ⟨hlisten, rfl⟩
  -- to the job of that name
  · obtain ⟨hgo, htrail⟩ := h.handed hv number reply
    rw [hd, deliver_of_job (hawaits.trans hr) (hjobs.trans hv) hb hp,
      deliverTrail_of_job hr hv hb hp,
      deliverTrail_of_job (hawaits.trans hr) (hjobs.trans hv) hb hp, htrail]
    exact ⟨hgo, rfl⟩
  -- to nobody, and it is lost on both
  · have hj' : ∀ j ∈ w.jobs, j.2.awaits number = false := by
      rw [hjobs]
      exact hj
    rw [hd, deliver_of_none (hawaits.trans hr) hj',
      deliverTrail_of_none hr hj,
      deliverTrail_of_none (hawaits.trans hr) hj']
    obtain ⟨storage, rfl⟩ := h.alike
    exact ⟨⟨⟨storage, rfl⟩, h.jobs, h.reload⟩, rfl⟩

end Together
end

-- ================================================================== runs

variable {v w : Workload Report}

/-- One move keeps workloads together, and the same happens in both. -/
theorem Together.step (h : Together v w) (m : Move) :
    Together (v.step m) (w.step m) ∧ w.stepTrail m = v.stepTrail m := by
  cases m with
  | begin name task => exact h.begin name task.blind
  | reply number reply => exact h.deliver number reply
  | listen => exact h.listen
  | signal =>
      obtain ⟨storage, rfl⟩ := h.alike
      exact ⟨⟨⟨storage, rfl⟩, h.jobs, h.reload⟩, rfl⟩
  | collect =>
      obtain ⟨storage, rfl⟩ := h.alike
      refine ⟨⟨⟨storage, rfl⟩, fun j hj => ?_, h.reload⟩, rfl⟩
      exact h.jobs j (List.mem_filter.1 hj).1

/-- Moves one after another. The trails agree move by move, and so as a
whole. -/
theorem Together.run (ms : List Move) : ∀ {v w : Workload Report},
    Together v w →
    Together (v.run ms) (w.run ms) ∧ w.trail ms = v.trail ms := by
  induction ms with
  | nil => intro v w h; exact ⟨h, rfl⟩
  | cons m ms ih =>
      intro v w h
      obtain ⟨hstep, hmove⟩ := h.step m
      obtain ⟨hrun, hrest⟩ := ih hstep
      refine ⟨hrun, ?_⟩
      show w.stepTrail m ++ (w.step m).trail ms = _
      rw [hmove, hrest]
      rfl

/-- Storages that hold the same make consoles that go together. -/
theorem together_fresh (baseUrl : String) {sound flawed : Storage}
    (h : ∀ key, flawed.get? key = sound.get? key) :
    Together (Console.fresh baseUrl sound)
      (Console.fresh baseUrl flawed) := by
  refine ⟨⟨(Session.hydrate flawed).storage, ?_⟩, ?_, ?_⟩
  -- what is hydrated is read from the items, which are the same; only
  -- what becomes of a leftover user may differ
  · have hidentity : (Session.hydrate flawed).identity
        = (Session.hydrate sound).identity := by
      unfold Session.hydrate
      rw [h, h]
      cases (sound.get? Session.tokenKey).filter (· ≠ "") with
      | some token => rfl
      | none => cases sound.get? Session.userKey <;> rfl
    have hsession : Session.hydrate flawed
        = ⟨(Session.hydrate sound).identity,
            (Session.hydrate flawed).storage⟩ := by
      rw [← hidentity]
    show Workload.idle _ = _
    unfold Console.start
    rw [hsession]
    rfl
  · intro j hj
    cases hj
  · intro p hp
    cases hp

/-- Two runs of one console, with the same moves and the same replies, on
two storages that hold the same at first. Whatever becomes of the writes,
the storage is the only difference between the workloads; and the same
has happened in both, with the same requests under the same tokens. -/
theorem run_storage_unnoticed {sound flawed : Storage}
    (h : ∀ key, flawed.get? key = sound.get? key) (baseUrl : String)
    (ms : List Move) :
    (∃ storage, (Console.fresh baseUrl flawed).run ms
        = ((Console.fresh baseUrl sound).run ms).onStorage storage)
      ∧ (Console.fresh baseUrl flawed).trail ms
        = (Console.fresh baseUrl sound).trail ms := by
  obtain ⟨hlast, htrail⟩ :=
    Together.run ms (together_fresh baseUrl h)
  exact ⟨hlast.alike, htrail⟩

/-- Somebody signs in. -/
def signingIn : List Move :=
  [.begin "sign in" (.perform (.establish "t1" ⟨"alice", "admin"⟩))]

/-- Memory that refuses every write. -/
def refusingAll : Storage := .faulty [] 0 fun _ _ => true

/-- Only one of the two storages has the token in the end, and nothing else
differs. -/
theorem signingIn_unnoticed :
    let sound := Console.fresh "http://localhost" (.memory [])
    let flawed := Console.fresh "http://localhost" refusingAll
    (∃ storage,
        flawed.run signingIn = (sound.run signingIn).onStorage storage)
      ∧ flawed.trail signingIn = sound.trail signingIn
      ∧ (sound.run signingIn).console.session.storage.get?
          Session.tokenKey = some "t1"
      ∧ (flawed.run signingIn).console.session.storage.get?
          Session.tokenKey = none := by
  intro sound flawed
  have hsame : ∀ key, refusingAll.get? key = (Storage.memory []).get? key :=
    fun _ => rfl
  have h := run_storage_unnoticed hsame "http://localhost" signingIn
  exact ⟨h.1, h.2, by decide +kernel, by decide +kernel⟩

end Workload
end SecurityConsole
