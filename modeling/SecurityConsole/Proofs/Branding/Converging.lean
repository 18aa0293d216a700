/-
The branding after the last signal that it has changed.

Behind a signal, the listener still has something to receive; then it
waits for a load that it has sent behind the signal; then that load has
come back, or was lost (`Converging`). Every move leads on along this way,
or stays where it is (`Converging.step`). Once the load has come back, what
is cached is what a load brought, and a load is either one that was sent
behind the signal (`FreshlyBranded`), or one that was under way when the
signal came and has overtaken such a load (`Overtaken`). So this holds
whenever the listener has come to rest (`branding_fresh_or_overtaken`), and
nothing keeps the second from happening (`late_reply_overtakes`).
-/
import SecurityConsole.Proofs.Branding.Loads

namespace SecurityConsole

open Console (brandingCall brandingOf loadBranding)

-- =============================================================== channels

namespace Channel

/-- Behind a signal there is always something to receive. A channel that
is full drops the oldest signal for it, and tells of the gap. -/
theorem one_le_backlog_send (c : Channel) : 1 ≤ c.send.backlog := by
  by_cases h : c.waiting < capacity
  · rw [backlog_send h]
    omega
  · have hfull : capacity ≤ c.waiting := Nat.le_of_not_lt h
    have hcapacity : capacity = 16 := rfl
    -- the oldest signal is pushed out, and fifteen stay
    unfold send backlog
    rw [if_neg h]
    show 1 ≤ c.waiting + _
    omega

end Channel

-- =================================================================== moves

/-- A move that neither signals nor sets the branding. -/
structure Move.Quiet (m : Move) : Prop where
  signal : m ≠ .signal
  brand : ∀ name config, m ≠ .begin name (.perform (.brand config))

namespace Workload

section
variable {α : Type}

-- =============================================================== workloads

/-- A workload whose jobs change the branding by loading it only, and whose
listener waits for a load if for anything. -/
structure Loads (w : Workload α) : Prop where
  jobs : ∀ j ∈ w.jobs, j.2.Loads
  reload : ∀ p, w.reload = some p →
    ∃ number request, p = loading number request

/-- The listener waits for a load that was sent on the way. -/
def Reloading (w : Workload α) (hs : List Happening) (v : Workload α) :
    Prop :=
  ∃ number request, v.reload = some (loading number request)
    ∧ SentIn w.console hs ⟨number, brandingCall, request⟩

/-- A load was lost on the way, and the default is cached. -/
def LostLoad (w : Workload α) (hs : List Happening) (v : Workload α) :
    Prop :=
  v.console.site = .default ∧ LostIn w.console hs

variable {w v : Workload α}

-- =============================================================== receiving

/-- A signal that was received sends a load, whose reply the listener
then waits for. -/
theorem received_of_some {channel : Channel} {request : Request}
    (h : Console.request? { w.console with channel := some channel }
      brandingCall = some request) :
    (w.received channel).console
        = { w.console with channel := some channel }
      ∧ (w.received channel).reload = some (loading w.next request)
      ∧ loadBranding.trail w.next { w.console with channel := some channel }
        = [.sent ⟨w.next, brandingCall, request⟩] := by
  obtain ⟨hsent, htrail⟩ := loadBranding_of_some h w.next
  unfold received
  rw [hsent]
  exact ⟨rfl, rfl, htrail⟩

/-- Or the load that it asks for cannot be sent: the default is cached
at once, and the listener is idle again. -/
theorem received_of_none {channel : Channel}
    (h : Console.request? { w.console with channel := some channel }
      brandingCall = none) :
    (w.received channel).console.site = .default
      ∧ (w.received channel).reload = none
      ∧ LostIn { w.console with channel := some channel }
        (loadBranding.trail w.next
          { w.console with channel := some channel }) := by
  obtain ⟨hlost, htrail⟩ := loadBranding_of_none h w.next
  unfold received
  rw [hlost]
  exact ⟨cached_site _ _ _, rfl, htrail⟩

/-- Along a trail, receiving is taking one signal from the channel. -/
theorem received_apply {c : Console} {channel : Channel}
    (h : c.channel.bind Channel.receive? = some channel) :
    Happening.received.apply c = { c with channel := some channel } := by
  simp only [Happening.apply, h]

/-- What listening to signals leads to: a load is sent, and the branding is
not touched before its reply comes; or the last load was lost. -/
inductive Heard (w : Workload α) (hs : List Happening) (v : Workload α) :
    Prop where
  | sent (h : Reloading w hs v) (hsite : SiteKept w.console hs v.console)
  | lost (h : LostLoad w hs v) (hidle : v.reload = none)

/-- These are the two ways in which one signal is heard. -/
theorem received_heard {channel : Channel}
    (h : w.console.channel.bind Channel.receive? = some channel) :
    Heard w (.received :: loadBranding.trail w.next
      { w.console with channel := some channel }) (w.received channel) := by
  have happly := received_apply h
  cases hr : Console.request? { w.console with channel := some channel }
      brandingCall with
  | some request =>
      obtain ⟨hconsole, hreload, htrail⟩ := received_of_some hr
      refine .sent ⟨w.next, request, hreload, ?_⟩ (.inl (by rw [hconsole]))
      rw [htrail]
      refine SentIn.cons ?_
      rw [happly]
      exact ⟨[], [], rfl, hr⟩
  | none =>
      obtain ⟨hsite, hreload, hlost⟩ := received_of_none hr
      refine .lost ⟨hsite, LostIn.cons ?_⟩ hreload
      rw [happly]
      exact hlost

section later
variable {u : Workload α} {hs ks : List Happening}

/-- The listener still waits for that load if other things happened
before it was sent. -/
theorem Reloading.later (h : Reloading v ks u)
    (hv : v.console = replay w.console hs) : Reloading w (hs ++ ks) u := by
  obtain ⟨number, request, hreload, hsent⟩ := h
  rw [hv] at hsent
  exact ⟨number, request, hreload, hsent.later⟩

/-- The load is just as lost if other things happened before. -/
theorem LostLoad.later (h : LostLoad v ks u)
    (hv : v.console = replay w.console hs) : LostLoad w (hs ++ ks) u := by
  obtain ⟨hdefault, hlost⟩ := h
  rw [hv] at hlost
  exact ⟨hdefault, hlost.later⟩

/-- What listening leads to, behind happenings that kept the branding or
lost a load themselves. -/
theorem Heard.later (h : Heard v ks u)
    (hv : v.console = replay w.console hs)
    (hsite : SiteKept w.console hs v.console) : Heard w (hs ++ ks) u := by
  cases h with
  | sent h hkept => exact .sent (h.later hv) (hsite.trans hv hkept)
  | lost h hidle => exact .lost (h.later hv) hidle

end later

-- =============================================================== listening

/-- A listener that waits for a load does not look at the channel. -/
theorem listenOnce_of_busy {p : Paused Unit} (h : w.reload = some p) :
    w.listenOnce = w ∧ w.listenOnceTrail = [] := by
  unfold listenOnce listenOnceTrail
  rw [h]
  exact ⟨rfl, rfl⟩

/-- Without a signal the listener does nothing. -/
theorem listenOnce_of_nothing
    (h : w.console.channel.bind Channel.receive? = none) :
    w.listenOnce = w ∧ w.listenOnceTrail = [] := by
  unfold listenOnce listenOnceTrail
  rw [h]
  cases w.reload <;> exact ⟨rfl, rfl⟩

/-- An idle listener that finds a signal hears it. -/
theorem listenOnce_heard {channel : Channel} (hr : w.reload = none)
    (h : w.console.channel.bind Channel.receive? = some channel) :
    Heard w w.listenOnceTrail w.listenOnce := by
  have hw : w.listenOnce = w.received channel := by
    unfold listenOnce
    rw [hr, h]
    rfl
  have ht : w.listenOnceTrail = .received :: loadBranding.trail w.next
      { w.console with channel := some channel } := by
    unfold listenOnceTrail
    rw [hr, h]
  rw [hw, ht]
  exact received_heard h

/-- Listening on behind a signal that was heard. If its load is under
way nothing more is received; if it was lost, the next signal is heard,
if there is one, and that load decides. -/
theorem Heard.listenOnce {hs : List Happening} (h : Heard w hs v)
    (hv : v.console = replay w.console hs) :
    Heard w (hs ++ v.listenOnceTrail) v.listenOnce := by
  have hstays : v.listenOnce = v ∧ v.listenOnceTrail = [] →
      Heard w (hs ++ v.listenOnceTrail) v.listenOnce := by
    rintro ⟨hnext, htrail⟩
    rw [hnext, htrail, List.append_nil]
    exact h
  cases h with
  | sent hsent hsite =>
      obtain ⟨number, request, hreload, -⟩ := hsent
      exact hstays (listenOnce_of_busy hreload)
  | lost hlost hidle =>
      cases hc : v.console.channel.bind Channel.receive? with
      | none => exact hstays (listenOnce_of_nothing hc)
      | some channel =>
          exact (listenOnce_heard hidle hc).later hv (.inr hlost)

/-- A backlog is that of a channel. -/
theorem channel_of_backlog (hb : 1 ≤ w.backlog) :
    ∃ channel, w.console.channel = some channel
      ∧ 1 ≤ channel.backlog := by
  unfold backlog at hb
  cases hc : w.console.channel with
  | none =>
      rw [hc] at hb
      exact absurd hb (by decide)
  | some channel =>
      rw [hc] at hb
      exact ⟨channel, rfl, hb⟩

/-- And the backlog of the channel is that of the workload. -/
theorem one_le_backlog {c : Channel} (hc : w.console.channel = some c)
    (hb : 1 ≤ c.backlog) : 1 ≤ w.backlog := by
  unfold backlog
  rw [hc]
  exact hb

/-- An idle listener with a backlog hears a signal: the first look finds
one, and as many looks follow as there were signals. -/
theorem listen_heard (hr : w.reload = none) (hb : 1 ≤ w.backlog) :
    Heard w (w.listenTrail w.backlog) w.listen := by
  obtain ⟨channel, hc⟩ : ∃ channel,
      w.console.channel.bind Channel.receive? = some channel := by
    obtain ⟨channel, hc, hone⟩ := channel_of_backlog hb
    rw [hc]
    cases hrec : channel.receive? with
    | some rest => exact ⟨rest, hrec⟩
    | none =>
        have hnone := Channel.receive?_eq_none_iff.1 hrec
        omega
  -- the first look receives a signal; what comes later keeps to that
  have hall : ∀ n, Heard w (w.listenTrail (n + 1))
      ((n + 1).repeat Workload.listenOnce w) := by
    intro n
    induction n with
    | zero => exact listenOnce_heard hr hc
    | succ n ih =>
        refine ih.listenOnce ?_
        have hleads := listenFor_leads w (n + 1)
        exact hleads.console
  obtain ⟨n, hn⟩ : ∃ n, w.backlog = n + 1 := ⟨w.backlog - 1, by omega⟩
  unfold listen
  rw [hn]
  exact hall n

/-- However often a busy listener looks, nothing happens. -/
theorem listen_of_busy {p : Paused Unit} (h : w.reload = some p) :
    w.listen = w ∧ w.listenTrail w.backlog = [] := by
  obtain ⟨hnext, htrail⟩ := listenOnce_of_busy h
  have hall : ∀ n, n.repeat Workload.listenOnce w = w
      ∧ w.listenTrail n = [] := by
    intro n
    induction n with
    | zero => exact ⟨rfl, rfl⟩
    | succ n ih =>
        refine ⟨?_, ?_⟩
        · show Workload.listenOnce (n.repeat Workload.listenOnce w) = w
          rw [ih.1, hnext]
        · rw [listenTrail, ih.1, ih.2, htrail]
          rfl
  exact hall w.backlog

/-- Without a backlog it does not even look. -/
theorem listen_of_nothing (h : w.backlog = 0) :
    w.listen = w ∧ w.listenTrail w.backlog = [] := by
  unfold listen
  rw [h]
  exact ⟨rfl, rfl⟩

/-- Listening keeps the branding, unless a load is lost. -/
theorem listen_site (w : Workload α) :
    SiteKept w.console (w.listenTrail w.backlog) w.listen.console := by
  have hstays : w.listen = w ∧ w.listenTrail w.backlog = [] →
      SiteKept w.console (w.listenTrail w.backlog) w.listen.console := by
    rintro ⟨hnext, -⟩
    rw [hnext]
    exact .inl rfl
  cases hr : w.reload with
  | some p => exact hstays (listen_of_busy hr)
  | none =>
      rcases Nat.eq_zero_or_pos w.backlog with hb | hb
      · exact hstays (listen_of_nothing hb)
      · cases listen_heard hr hb with
        | sent _ hsite => exact hsite
        | lost hlost _ => exact .inr hlost

-- =================================================================== loads

/-- What the listener starts is a load, so one look keeps the workload
to loads. -/
theorem listenOnce_loads (h : w.Loads) : w.listenOnce.Loads := by
  rcases w.listenOnce_cases with ⟨channel, hr, hc, hw⟩ | hw
  · have hheard := received_heard hc
    rw [hw]
    refine ⟨?_, fun p hp => ?_⟩
    · rw [received_jobs]
      exact h.jobs
    cases hheard with
    | sent hsent _ =>
        obtain ⟨number, request, hreload, -⟩ := hsent
        rw [hreload] at hp
        exact ⟨number, request, (Option.some.inj hp).symm⟩
    | lost _ hidle =>
        rw [hidle] at hp
        cases hp
  · rw [hw]
    exact h

/-- And so do all looks. -/
theorem listen_loads (h : w.Loads) : w.listen.Loads :=
  listen_induction h fun _ => listenOnce_loads

/-- The workload behind the reply to the listener's load, and before the
listener looks for signals again. -/
theorem reloaded_eq (w : Workload α) (n : Nat) (request : Request)
    (reply : Reply) :
    (w.reloaded (loading n request) n reply).console
        = w.console.cached request.token reply
      ∧ (w.reloaded (loading n request) n reply).reload = none
      ∧ (w.reloaded (loading n request) n reply).jobs = w.jobs := by
  unfold reloaded
  rw [loading_deliver]
  exact ⟨rfl, rfl, rfl⟩

/-- Where a reply goes, in a workload that loads the branding: to the
listener's load, which ends with it; to a job; or nowhere. -/
theorem Loads.deliver_cases (h : w.Loads) (number : Nat) (reply : Reply) :
    (∃ request, w.reload = some (loading number request)
        ∧ w.deliver number reply
          = (w.reloaded (loading number request) number reply).listen
        ∧ w.deliverTrail number reply
          = (loading number request).deliverTrail w.next number reply
              w.console
            ++ (w.reloaded (loading number request) number
                reply).listenTrail
              (w.reloaded (loading number request) number reply).backlog)
      ∨ (∃ before name p behind, w.jobs = before ++ (name, p) :: behind
          ∧ (∀ request, w.reload ≠ some (loading number request))
          ∧ w.deliver number reply
            = w.handed before name p behind number reply
          ∧ w.deliverTrail number reply
            = p.deliverTrail w.next number reply w.console)
      ∨ ((w.deliver number reply).console = w.console
          ∧ (w.deliver number reply).jobs = w.jobs
          ∧ (w.deliver number reply).reload = w.reload
          ∧ (∀ request, w.reload ≠ some (loading number request))
          ∧ w.deliverTrail number reply = []) := by
  have hnot : w.reloadAwaits number = false →
      ∀ request, w.reload ≠ some (loading number request) := by
    intro hfalse request hreload
    unfold reloadAwaits at hfalse
    rw [hreload] at hfalse
    have htrue : (loading number request).awaits number = true :=
      loading_awaits.2 rfl
    exact absurd (htrue.symm.trans hfalse) (by decide)
  rcases w.deliver_cases number reply with
    ⟨p, hr, hp, hd⟩ | ⟨before, name, p, behind, hr, hw, hb, hp, hd⟩
      | ⟨hr, hj, hd⟩
  · obtain ⟨n, request, rfl⟩ := h.reload p hr
    obtain rfl := loading_awaits.1 hp
    exact .inl ⟨request, hr, hd, deliverTrail_of_reload hr hp reply⟩
  · exact .inr (.inl ⟨before, name, p, behind, hw, hnot hr, hd,
      deliverTrail_of_job hr hw hb hp reply⟩)
  · refine .inr (.inr ⟨?_, ?_, ?_, hnot hr,
      deliverTrail_of_none hr hj reply⟩)
    all_goals rw [hd]

/-- A reply ends the listener's load, or carries a job on that loads
only. -/
theorem deliver_loads (h : w.Loads) (number : Nat) (reply : Reply) :
    (w.deliver number reply).Loads := by
  rcases h.deliver_cases number reply with
    ⟨request, hr, hd, -⟩ | ⟨before, name, p, behind, hw, -, hd, -⟩
      | ⟨-, hj, hr, -⟩
  · obtain ⟨-, hreload, hjobs⟩ := w.reloaded_eq number request reply
    rw [hd]
    refine listen_loads ⟨?_, ?_⟩
    · rw [hjobs]
      exact h.jobs
    · intro q hq
      rw [hreload] at hq
      cases hq
  · rw [hd]
    refine ⟨fun j hj => ?_, h.reload⟩
    rcases mem_handed hw hj with hj | rfl
    · exact h.jobs j hj
    · have hp := h.jobs (name, p) (mem_jobs hw)
      exact (hp.deliver w.next number reply w.console).1
  · refine ⟨?_, ?_⟩
    · rw [hj]
      exact h.jobs
    · rw [hr]
      exact h.reload

end

-- ==================================================================== moves

section
variable {v w : Workload Report}

/-- A task that begins only loads from then on. Caching a branding
outright is over as soon as it begins, so that it leaves nothing in the
workload. -/
theorem begin_loads (h : w.Loads) (name : String) (t : Task) :
    (w.begin name t.job).Loads := by
  have hbegun : (t.job.advance w.next w.console).1.Loads := by
    by_cases hact : ∃ config, t = .perform (.brand config)
    · obtain ⟨config, rfl⟩ := hact
      exact .ended _
    · have hloads := Task.loads fun config ht => hact ⟨config, ht⟩
      exact (hloads.advance w.next w.console).1
  refine ⟨fun j hj => ?_, h.reload⟩
  rcases mem_begin hj with hj | rfl
  · exact h.jobs j hj
  · exact hbegun

/-- One move keeps the workload to loads. -/
theorem step_loads (h : w.Loads) (m : Move) : (w.step m).Loads := by
  cases m with
  | begin name task => exact begin_loads h name task
  | reply number reply => exact deliver_loads h number reply
  | signal => exact ⟨h.jobs, h.reload⟩
  | listen => exact listen_loads h
  | collect =>
      refine ⟨fun j hj => ?_, h.reload⟩
      exact h.jobs j (List.mem_filter.1 hj).1

/-- In every run of a new console, jobs change the branding by loading it
only. -/
theorem run_loads (baseUrl : String) (storage : Storage) (ms : List Move) :
    ((Console.fresh baseUrl storage).run ms).Loads := by
  have h : (Console.fresh baseUrl storage).Loads := by
    refine ⟨?_, ?_⟩
    · intro j hj
      cases hj
    · intro p hp
      cases hp
  exact run_induction h (fun _ m h => step_loads h m) ms

/-- A signal stays to be received until the listener has sent a load, or
lost it. -/
theorem signalled_step (h : w.Loads) (hb : 1 ≤ w.backlog) (m : Move)
    (hm : m ≠ .signal) :
    1 ≤ (w.step m).backlog ∨ Reloading w (w.stepTrail m) (w.step m)
      ∨ LostLoad w (w.stepTrail m) (w.step m) := by
  obtain ⟨channel, hc, hone⟩ := channel_of_backlog hb
  cases m with
  | signal => exact absurd rfl hm
  | collect => exact .inl hb
  -- jobs do not receive, so the signal waits on
  | begin name task =>
      have hkept := Job.advance_channel w.next task.job hc
      exact .inl (one_le_backlog (w := w.begin name task.job) hkept hone)
  | listen =>
      cases hr : w.reload with
      | some p =>
          show 1 ≤ w.listen.backlog ∨ _
          rw [(listen_of_busy hr).1]
          exact .inl hb
      | none =>
          cases listen_heard hr hb with
          | sent hsent _ => exact .inr (.inl hsent)
          | lost hlost _ => exact .inr (.inr hlost)
  | reply number reply =>
      rcases h.deliver_cases number reply with
        ⟨request, hr, hd, ht⟩ | ⟨before, name, p, behind, hjobs, -, hd, -⟩
          | ⟨hconsole, -⟩
      · -- the listener is idle again, and the signal still there
        have hkept := Paused.deliver_channel hc w.next number reply
          (loading number request)
        have hb' := one_le_backlog
          (w := w.reloaded (loading number request) number reply) hkept hone
        have hidle := (w.reloaded_eq number request reply).2.1
        have hleads := (reloaded_leads hr number reply).console
        show _ ∨ Reloading w (w.deliverTrail number reply)
            (w.deliver number reply)
          ∨ LostLoad w (w.deliverTrail number reply)
            (w.deliver number reply)
        rw [hd, ht]
        cases listen_heard hidle hb' with
        | sent hsent _ => exact .inr (.inl (hsent.later hleads))
        | lost hlost _ => exact .inr (.inr (hlost.later hleads))
      -- the reply is a job's, which does not receive either
      · have hkept := Paused.deliver_channel hc w.next number reply p
        refine .inl (one_le_backlog (w := w.deliver number reply) ?_ hone)
        rw [hd]
        exact hkept
      · refine .inl (one_le_backlog (w := w.deliver number reply) ?_ hone)
        rw [hconsole]
        exact hc

/-- The reply to the listener's load is cached, unless the listener loads
once more, and loses that load. -/
theorem reload_replied {n : Nat} {request : Request}
    (hr : w.reload = some (loading n request)) {reply : Reply}
    (hd : w.deliver n reply
      = (w.reloaded (loading n request) n reply).listen)
    (ht : w.deliverTrail n reply
      = (loading n request).deliverTrail w.next n reply w.console
        ++ (w.reloaded (loading n request) n reply).listenTrail
          (w.reloaded (loading n request) n reply).backlog) :
    (w.deliver n reply).console.site = brandingSaid reply
      ∨ LostLoad w (w.deliverTrail n reply) (w.deliver n reply) := by
  obtain ⟨hcached, -, -⟩ := w.reloaded_eq n request reply
  have hleads := (reloaded_leads hr n reply).console
  rw [hd, ht]
  rcases listen_site (w.reloaded (loading n request) n reply) with
    hsite | hlost
  · rw [hcached, cached_site] at hsite
    exact .inl hsite
  · exact .inr (LostLoad.later hlost hleads)

/-- A load of the listener goes on until its reply comes, which is cached
then. -/
theorem reloading_step (h : w.Loads) {n : Nat} {request : Request}
    (hr : w.reload = some (loading n request)) (m : Move) :
    (w.step m).reload = some (loading n request)
      ∨ ∃ reply, m = .reply n reply
        ∧ ((w.step m).console.site = brandingSaid reply
          ∨ LostLoad w (w.stepTrail m) (w.step m)) := by
  cases m with
  | signal => exact .inl hr
  | collect => exact .inl hr
  | begin name task => exact .inl hr
  | listen =>
      refine .inl ?_
      show w.listen.reload = _
      rw [(listen_of_busy hr).1]
      exact hr
  | reply number reply =>
      rcases h.deliver_cases number reply with
        ⟨other, hr', hd, ht⟩ | ⟨before, name, p, behind, hjobs, hnot, hd, -⟩
          | ⟨-, -, hreload, -⟩
      · -- the listener's load has just one number
        have hsame : n = number := by
          rw [hr] at hr'
          have hawaits : (loading n request).awaits number = true := by
            rw [Option.some.inj hr']
            exact loading_awaits.2 rfl
          exact loading_awaits.1 hawaits
        subst hsame
        exact .inr ⟨reply, rfl, reload_replied hr' hd ht⟩
      · refine .inl ?_
        show (w.deliver number reply).reload = _
        rw [hd]
        exact hr
      · exact .inl (hreload.trans hr)

/-- What one move does to the branding: nothing, or a load is lost, or the
reply to a load comes. -/
theorem site_step (h : w.Loads) {m : Move}
    (hm : ∀ name config, m ≠ .begin name (.perform (.brand config))) :
    SiteKept w.console (w.stepTrail m) (w.step m).console
      ∨ ∃ s reply, m = .reply s.number reply ∧ s ∈ w.outstanding
        ∧ s.call = brandingCall
        ∧ (w.step m).console.site = brandingSaid reply := by
  cases m with
  | signal => exact .inl (.inl rfl)
  | collect => exact .inl (.inl rfl)
  | listen => exact .inl (listen_site w)
  | begin name task =>
      have hloads := Task.loads (t := task) fun config ht =>
        hm name config (ht ▸ rfl)
      exact .inl (hloads.advance w.next w.console).2
  | reply number reply =>
      -- the reload of the listener, a load of a job, or nobody waits
      -- for it
      rcases h.deliver_cases number reply with
        ⟨request, hr, hd, ht⟩ | ⟨before, name, p, behind, hjobs, -, hd, ht⟩
          | ⟨hconsole, -⟩
      · have hsub := reload_outstanding_sublist hr
        rcases reload_replied hr hd ht with hsite | hlost
        · exact .inr ⟨⟨number, brandingCall, request⟩, reply, rfl,
            hsub.subset List.mem_cons_self, rfl, hsite⟩
        · exact .inl (.inr hlost)
      · have hp := h.jobs (name, p) (mem_jobs hjobs)
        have hsub := job_outstanding_sublist hjobs
        show SiteKept _ (w.deliverTrail number reply)
            (w.deliver number reply).console
          ∨ ∃ s r, Move.reply number reply = _ ∧ _ ∧ _
            ∧ (w.deliver number reply).console.site = _
        rw [hd, ht]
        cases (hp.deliver w.next number reply w.console).2 with
        | kept hkept => exact .inl hkept
        | brought s hs hn hcall hsite =>
            subst hn
            exact .inr ⟨s, reply, rfl, hsub.subset hs, hcall, hsite⟩
      · refine .inl (.inl ?_)
        show (w.deliver number reply).console.site = _
        rw [hconsole]

-- ================================================================ brandings

/-- The branding in the end came with the reply to a load, which was still
under way after the first of the moves. -/
structure BroughtBy (w : Workload Report) (ms before : List Move) (s : Sent) :
    Prop where
  call : s.call = brandingCall
  underWay : s ∈ (w.run before).outstanding
  replied : ∃ reply behind, ms = before ++ .reply s.number reply :: behind
    ∧ (w.run ms).console.site = brandingSaid reply

/-- The branding in the end came with a load that was sent in the run, or
it is the default because such a load was lost. -/
def FreshlyBranded (w : Workload Report) (ms : List Move) : Prop :=
  LostLoad w (w.trail ms) (w.run ms)
    ∨ ∃ before s, BroughtBy w ms before s
      ∧ SentIn w.console (w.trail before) s

/-- The branding had come with a load that was sent in the run, and then
the reply to a load from before the run overtook it. -/
def Overtaken (w : Workload Report) (ms : List Move) : Prop :=
  ∃ first before s, FreshlyBranded w first
    ∧ BroughtBy w ms (first ++ before) s ∧ s ∈ w.outstanding

section
variable {ms before : List Move} {s : Sent} {m : Move}

/-- A run with one more move at its end. -/
theorem run_concat (w : Workload Report) (ms : List Move) (m : Move) :
    w.run (ms ++ [m]) = (w.run ms).step m := run_append w ms [m]

/-- A move that leaves the branding leaves where it came from. -/
theorem BroughtBy.concat (h : BroughtBy w ms before s)
    (hsite : ((w.run ms).step m).console.site
      = (w.run ms).console.site) :
    BroughtBy w (ms ++ [m]) before s := by
  obtain ⟨reply, behind, hms, hsaid⟩ := h.replied
  refine ⟨h.call, h.underWay, reply, behind ++ [m], ?_, ?_⟩
  · rw [hms, List.append_assoc]
    rfl
  · rw [run_concat, hsite, hsaid]

/-- A reply to a load that brings the branding is where it comes
from. -/
theorem BroughtBy.reply {reply : Reply} (hcall : s.call = brandingCall)
    (hs : s ∈ (w.run ms).outstanding)
    (hsite : ((w.run ms).step (.reply s.number reply)).console.site
      = brandingSaid reply) :
    BroughtBy w (ms ++ [.reply s.number reply]) ms s := by
  refine ⟨hcall, hs, reply, [], rfl, ?_⟩
  rw [run_concat]
  exact hsite

/-- A load that is lost in the last move of a run is lost in the run. -/
theorem LostLoad.concat
    (h : LostLoad (w.run ms) ((w.run ms).stepTrail m) ((w.run ms).step m)) :
    LostLoad w (w.trail (ms ++ [m])) (w.run (ms ++ [m])) := by
  rw [trail_concat, run_concat]
  exact h.later (run_replay w ms)

/-- A load that the listener sends in the last move of a run is sent in
the run. -/
theorem Reloading.concat
    (h : Reloading (w.run ms) ((w.run ms).stepTrail m)
      ((w.run ms).step m)) :
    Reloading w (w.trail (ms ++ [m])) (w.run (ms ++ [m])) := by
  rw [trail_concat, run_concat]
  exact h.later (run_replay w ms)

/-- A fresh branding stays fresh while it is kept. -/
theorem FreshlyBranded.kept (h : FreshlyBranded w ms)
    (hsite : ((w.run ms).step m).console.site
      = (w.run ms).console.site) : FreshlyBranded w (ms ++ [m]) := by
  rcases h with ⟨hdefault, hlost⟩ | ⟨before, s, hbrought, hsent⟩
  · refine .inl ⟨?_, ?_⟩
    · rw [run_concat, hsite, hdefault]
    · rw [trail_concat]
      exact hlost.more _
  · exact .inr ⟨before, s, hbrought.concat hsite, hsent⟩

/-- And one that has overtaken stays so while it is kept. -/
theorem Overtaken.kept (h : Overtaken w ms)
    (hsite : ((w.run ms).step m).console.site
      = (w.run ms).console.site) : Overtaken w (ms ++ [m]) := by
  obtain ⟨first, before, s, hfresh, hbrought, hs⟩ := h
  exact ⟨first, before, s, hfresh, hbrought.concat hsite, hs⟩

/-- A branding that came with a load from the run is followed by another
one of them, or by one that overtakes it. -/
theorem FreshlyBranded.step (h : (w.run ms).Loads)
    (hm : ∀ name config, m ≠ .begin name (.perform (.brand config)))
    (hfresh : FreshlyBranded w ms ∨ Overtaken w ms) :
    FreshlyBranded w (ms ++ [m]) ∨ Overtaken w (ms ++ [m]) := by
  rcases site_step h hm with
    (hsite | hlost) | ⟨s, reply, rfl, hs, hcall, hsite⟩
  · exact hfresh.imp (·.kept hsite) (·.kept hsite)
  · exact .inl (.inl (LostLoad.concat hlost))
  · have hbrought := BroughtBy.reply hcall hs hsite
    rcases (run_leads ms w).sent s hs with hold | hsent
    · -- it was under way before the run, and overtakes
      refine .inr ?_
      rcases hfresh with hfresh | ⟨first, before, t, hfresh, ht, -⟩
      · exact ⟨ms, [], s, hfresh, by rwa [List.append_nil], hold⟩
      · obtain ⟨other, behind, hms, -⟩ := ht.replied
        refine ⟨first, before ++ .reply t.number other :: behind, s,
          hfresh, ?_, hold⟩
        rw [← List.append_assoc, ← hms]
        exact hbrought
    · exact .inl (.inr ⟨ms, s, hbrought, hsent⟩)

end

-- ============================================================== converging

/-- How far a workload has come since a signal. -/
inductive Converging (w : Workload Report) (ms : List Move) : Prop where
  | signalled (h : 1 ≤ (w.run ms).backlog)
  | reloading (h : Reloading w (w.trail ms) (w.run ms))
  | loaded (h : FreshlyBranded w ms ∨ Overtaken w ms)

/-- One quiet move leads on along the way, or stays where it is: from
the signal to a load that is sent or lost, from the load to its reply,
and behind that from one load to the next. -/
theorem Converging.step {ms : List Move} (h : (w.run ms).Loads) {m : Move}
    (hm : m.Quiet) (hw : Converging w ms) : Converging w (ms ++ [m]) := by
  cases hw with
  | signalled hb =>
      -- received with this move, or still to be received
      rcases signalled_step h hb m hm.signal with hb | hsent | hlost
      · refine .signalled ?_
        rw [run_concat]
        exact hb
      · exact .reloading hsent.concat
      · exact .loaded (.inl (.inl hlost.concat))
  | reloading hr =>
      obtain ⟨number, request, hr, hsent⟩ := hr
      -- a load from before may be cached meanwhile: it does not count yet
      rcases reloading_step h hr m with hr' | ⟨reply, rfl, hsite | hlost⟩
      · refine .reloading ⟨number, request, ?_, ?_⟩
        · rw [run_concat]
          exact hr'
        · rw [trail_concat]
          exact hsent.more _
      · have hs : ⟨number, brandingCall, request⟩
            ∈ (w.run ms).outstanding :=
          (reload_outstanding_sublist hr).subset List.mem_cons_self
        exact .loaded (.inl (.inr ⟨ms, _, BroughtBy.reply rfl hs hsite,
          hsent⟩))
      · exact .loaded (.inl (.inl hlost.concat))
  | loaded hfresh => exact .loaded (FreshlyBranded.step h hm.brand hfresh)

/-- Quiet moves one after another. -/
theorem Converging.run (behind : List Move) :
    ∀ {ms : List Move}, (w.run ms).Loads → (∀ m ∈ behind, m.Quiet) →
      Converging w ms → Converging w (ms ++ behind) := by
  induction behind with
  | nil =>
      intro ms _ _ hw
      rw [List.append_nil]
      exact hw
  | cons m behind ih =>
      intro ms h hquiet hw
      have hstep := hw.step h (hquiet m List.mem_cons_self)
      have hloads : (w.run (ms ++ [m])).Loads := by
        rw [run_concat]
        exact step_loads h m
      have hrest : ∀ n ∈ behind, n.Quiet :=
        fun n hn => hquiet n (List.mem_cons_of_mem m hn)
      have hall := ih hloads hrest hstep
      rwa [List.append_assoc] at hall

/-- A console that listens for signals, the last of which comes, and moves
behind it that do not set the branding. Once nothing is left to be received
and the listener's load is over, the branding is what a load has brought
that was sent behind the signal, or the default, as such a load was lost;
or this had been so already, until the reply came to a load that was under
way when the signal came. -/
theorem branding_fresh_or_overtaken (baseUrl : String) (storage : Storage)
    (before behind : List Move)
    (hlistens : ((Console.fresh baseUrl storage).run
      before).console.isListening = true)
    (hquiet : ∀ m ∈ behind, m.Quiet) :
    let w := (Console.fresh baseUrl storage).run (before ++ [.signal])
    (w.run behind).backlog = 0 → (w.run behind).reload = none →
      FreshlyBranded w behind ∨ Overtaken w behind := by
  intro w hbacklog hidle
  obtain ⟨channel, hchannel⟩ := Option.isSome_iff_exists.1 hlistens
  have hsignalled : Converging w [] := by
    refine .signalled (one_le_backlog (c := channel.send) ?_
      channel.one_le_backlog_send)
    show w.console.channel = _
    have hw : w.console
        = ((Console.fresh baseUrl storage).run before).console.signal :=
      congrArg Workload.console (run_concat _ before .signal)
    rw [hw]
    show Option.map _ _ = _
    rw [hchannel]
    rfl
  have hloads : (w.run []).Loads := run_loads baseUrl storage _
  have hlast := hsignalled.run behind hloads hquiet
  rw [List.nil_append] at hlast
  cases hlast with
  | signalled h => omega
  | reloading h =>
      obtain ⟨number, request, h, -⟩ := h
      rw [hidle] at h
      cases h
  | loaded h => exact h

end

-- ============================================================ a late reply

/-- A server's answer with the name of a site. -/
def answering (name : String) : Reply :=
  .response 200 (Text.encode
    ("\x7b\"code\":0,\"data\":\x7b\"site_name\":\"" ++ name ++ "\"\x7d\x7d"))

/-- The branding changes while a page waits for its load. -/
def changing : Workload Report :=
  (Console.fresh "http://localhost" (.memory [])).run
    ([.begin "page" .initBranding] ++ [.signal])

/-- The listener loads the new branding, and the page's load is answered
behind it, with the old one. -/
def lateReply : List Move :=
  [.listen, .reply 1 (answering "New"), .reply 0 (answering "Old")]

/-- What the moves come to: first the new name is cached, then the old
one, and then nothing is left to do. -/
theorem changing_lateReply :
    (changing.run (lateReply.take 2)).console.site = ⟨"New", "", "", ""⟩
      ∧ (changing.run lateReply).console.site = ⟨"Old", "", "", ""⟩
      ∧ (changing.run lateReply).backlog = 0
      ∧ (changing.run lateReply).reload.isNone = true := by
  decide +kernel

/-- Whether a request with a number is sent. -/
def sends (n : Nat) : Happening → Bool
  | .sent s => s.number = n
  | _ => false

/-- The page's load is not sent behind the signal, and the one that is
brings another name. -/
theorem not_freshlyBranded_lateReply :
    ¬ FreshlyBranded changing lateReply := by
  obtain ⟨-, hsite, -⟩ := changing_lateReply
  have hnew : brandingSaid (answering "New") = ⟨"New", "", "", ""⟩ := by
    decide +kernel
  have hsends : (changing.trail (lateReply.take 2)).any (sends 0)
      = false := by decide +kernel
  rintro (⟨hdefault, -⟩ | ⟨before, s, hbrought, hsent⟩)
  · rw [hsite] at hdefault
    exact absurd hdefault (by decide)
  obtain ⟨reply, behind, hmoves, hsaid⟩ := hbrought.replied
  rw [hsite] at hsaid
  unfold lateReply at hmoves
  match before with
  -- the brought reply would be the first move, the second, the third,
  -- or behind the last one
  | [] => cases hmoves
  | [_] =>
      have htail := (List.cons.inj hmoves).2
      have hreply := (List.cons.inj htail).1
      rw [← (Move.reply.inj hreply).2, hnew] at hsaid
      exact absurd hsaid (by decide)
  | [_, _] =>
      obtain ⟨rfl, htail⟩ := List.cons.inj hmoves
      obtain ⟨rfl, hlast⟩ := List.cons.inj htail
      have hreply := (List.cons.inj hlast).1
      obtain ⟨first, rest, htrail, -⟩ := hsent
      have hnumber : sends 0 (.sent s) = true :=
        decide_eq_true (Move.reply.inj hreply).1.symm
      have hany : (changing.trail (lateReply.take 2)).any (sends 0)
          = true := by
        show (changing.trail [.listen, .reply 1 (answering "New")]).any _
          = true
        rw [htrail, List.any_append, List.any_cons, hnumber, Bool.true_or,
          Bool.or_true]
      rw [hsends] at hany
      cases hany
  | _ :: _ :: _ :: before =>
      have hlength := congrArg List.length hmoves
      simp only [List.cons_append, List.length_cons, List.length_append,
        List.length_nil] at hlength
      omega

/-- None of the moves signals or sets the branding. -/
theorem lateReply_quiet : ∀ m ∈ lateReply, m.Quiet := by
  intro m hm
  simp only [lateReply, List.mem_cons, List.not_mem_nil, or_false] at hm
  rcases hm with rfl | rfl | rfl
  all_goals exact ⟨nofun, nofun⟩

/-- The reply to a load from before a signal takes the place of what the
listener has loaded because of the signal. -/
theorem late_reply_overtakes :
    (changing.run (lateReply.take 2)).console.site = ⟨"New", "", "", ""⟩
      ∧ (changing.run lateReply).console.site = ⟨"Old", "", "", ""⟩
      ∧ ¬ FreshlyBranded changing lateReply
      ∧ Overtaken changing lateReply := by
  obtain ⟨hnew, hold, hbacklog, hidle⟩ := changing_lateReply
  have hlast := branding_fresh_or_overtaken "http://localhost" (.memory [])
    [.begin "page" .initBranding] lateReply (by decide +kernel)
    lateReply_quiet hbacklog (Option.isNone_iff_eq_none.1 hidle)
  have hstale := not_freshlyBranded_lateReply
  exact ⟨hnew, hold, hstale, hlast.resolve_left hstale⟩

end Workload
end SecurityConsole
