/-
Jobs that never look at the storage.

Two consoles are alike if they differ in nothing but their storage
(`Console.Alike`). Single steps act alike on them: they send the same
requests, tell the same, and leave consoles that are alike again, whatever
becomes of the writes. A job whose steps depend on nothing else than what
such steps tell, and on what is the same in consoles that are alike, is
blind (`Job.Blind`); it goes on alike, with the same trail
(`Blind.advance`, `Blind.deliver`). Every task is such a job
(`Task.blind`).
-/
import SecurityConsole.Proofs.Job.Tasks

namespace SecurityConsole

-- ================================================================ consoles

namespace Console

/-- Consoles that differ at most in their storage. -/
def Alike (c d : Console) : Prop := ∃ storage, d = c.onStorage storage

/-- Two steps that tell the same, and leave consoles that are alike. -/
def SameStep {β : Type} (x y : β × Console) : Prop :=
  y.1 = x.1 ∧ x.2.Alike y.2

variable {c d : Console}

/-- A request has its address from the console and its token from the
session in memory, so the storage does not show in it. -/
theorem Alike.request? (h : c.Alike d) (call : Call) :
    d.request? call = c.request? call := by
  obtain ⟨storage, rfl⟩ := h
  have hbase : (c.onStorage storage).baseUrl = c.baseUrl := rfl
  have htoken : (c.onStorage storage).session.token? = c.session.token? :=
    rfl
  unfold Console.request? Console.address?
  rw [hbase, htoken]

/-- Whether a token is held is asked of the session in memory. What the
teardown then does to the storages may differ, and so the storage of the
second console afterwards is some other one. -/
theorem Alike.endSession (h : c.Alike d) (token : String) :
    (c.endSession token).Alike (d.endSession token) := by
  obtain ⟨storage, rfl⟩ := h
  have hsame : (c.onStorage storage).session.holds token
      = c.session.holds token := rfl
  unfold Console.endSession Session.expire
  rw [hsame]
  cases c.session.holds token with
  | true => exact ⟨_, rfl⟩
  | false => exact ⟨storage, rfl⟩

/-- A settled reply tells the same to both, and what it changes beside
the storage is the same. Only a refusal of a request with a token comes
near the storage, when it ends the session. -/
theorem Alike.settle (h : c.Alike d) (call : Call) (token : Option String)
    (reply : Reply) :
    SameStep (c.settle call token reply) (d.settle call token reply) := by
  have hended := h.endSession
  obtain ⟨storage, rfl⟩ := h
  unfold Console.settle Console.conclude
  cases Verdict.ofReply call reply with
  | answered value => exact ⟨rfl, storage, rfl⟩
  | failed error text => exact ⟨rfl, storage, rfl⟩
  | refused message =>
      cases token with
      | none => exact ⟨rfl, storage, rfl⟩
      | some token =>
          obtain ⟨other, hother⟩ := hended token
          refine ⟨rfl, other, ?_⟩
          show Console.counted (Console.endSession _ token) _ _ = _
          rw [hother]
          rfl

/-- An act tells the same on both. Refreshing the user and ending the
session of a token first ask what is held; starting to listen asks for
the channel. The others act outright. -/
theorem Alike.apply (h : c.Alike d) (a : Act) :
    SameStep (a.apply c) (a.apply d) := by
  obtain ⟨storage, rfl⟩ := h
  have hholds : ∀ token, (c.onStorage storage).session.holds token
      = c.session.holds token := fun _ => rfl
  cases a with
  | refreshUser token user =>
      unfold Act.apply Session.refreshUser
      simp only [hholds]
      cases c.session.holds token with
      | true => exact ⟨rfl, _, rfl⟩
      | false => exact ⟨rfl, storage, rfl⟩
  | expire token =>
      unfold Act.apply Session.expire
      simp only [hholds]
      cases c.session.holds token with
      | true => exact ⟨rfl, _, rfl⟩
      | false => exact ⟨rfl, storage, rfl⟩
  | listen =>
      refine ⟨rfl, storage, ?_⟩
      have hchannel : (c.onStorage storage).channel = c.channel := rfl
      show Console.listen _ = (Console.listen c).onStorage storage
      unfold Console.listen
      rw [hchannel]
      cases c.channel <;> rfl
  | _ => exact ⟨rfl, _, rfl⟩

/-- Calls that are sent one after another go out with the same numbers
and the same requests. A call that cannot be sent is settled at once,
which may end the session; this is why the induction is over all
consoles that are alike, and not over the two at hand. -/
theorem Alike.send (cs : List Call) : ∀ {c d : Console} (next : Nat),
    c.Alike d →
    SameStep (Slots.send next c cs) (Slots.send next d cs)
      ∧ Slots.sendTrail next d cs = Slots.sendTrail next c cs := by
  induction cs with
  | nil => intro c d next h; exact ⟨⟨rfl, h⟩, rfl⟩
  | cons call rest ih =>
      intro c d next h
      have hrequest := h.request? call
      have htoken : d.session.token? = c.session.token? := by
        obtain ⟨storage, rfl⟩ := h
        rfl
      cases hr : c.request? call with
      | some request =>
          obtain ⟨⟨hslots, halike⟩, htrail⟩ := ih (next + 1) h
          rw [Slots.send_cons_of_some hr,
            Slots.send_cons_of_some (hrequest.trans hr),
            Slots.sendTrail_cons_of_some hr,
            Slots.sendTrail_cons_of_some (hrequest.trans hr), hslots,
            htrail]
          exact ⟨⟨rfl, halike⟩, rfl⟩
      -- no address or no header for the token: the call is lost at
      -- once, and the rest is sent from what that leaves
      | none =>
          obtain ⟨houtcome, hsettled⟩ :=
            h.settle call c.session.token? .lost
          obtain ⟨⟨hslots, halike⟩, htrail⟩ := ih next hsettled
          rw [Slots.send_cons_of_none hr,
            Slots.send_cons_of_none (hrequest.trans hr),
            Slots.sendTrail_cons_of_none hr,
            Slots.sendTrail_cons_of_none (hrequest.trans hr), htoken,
            houtcome, hslots, htrail]
          exact ⟨⟨rfl, halike⟩, rfl⟩

/-- A reply handed to slots settles the same slot on both consoles, if
any. -/
theorem Alike.deliver (h : c.Alike d) (number : Nat) (reply : Reply) :
    ∀ {cs : List Call} (slots : Slots cs),
      SameStep (slots.deliver number reply c)
        (slots.deliver number reply d) := by
  intro cs
  induction cs with
  | nil => intro slots; exact ⟨rfl, h⟩
  | cons call rest ih =>
      rintro ⟨slot, slots⟩
      obtain ⟨hslots, halike⟩ := ih slots
      cases slot with
      | settled outcome =>
          simp only [Slots.deliver, hslots]
          exact ⟨rfl, halike⟩
      | pending n request =>
          by_cases hn : n = number
          · obtain ⟨houtcome, hsettled⟩ := h.settle call request.token reply
            simp only [Slots.deliver, hn, if_true, houtcome]
            exact ⟨rfl, hsettled⟩
          · simp only [Slots.deliver, hn, if_false, hslots]
            exact ⟨rfl, halike⟩

end Console

open Console (Alike SameStep)

-- ==================================================================== jobs

/-- A job that goes on in the same way on every storage. -/
def Job.Blind {α : Type} : Job α → Prop
  | .done _ => True
  | .read go =>
    (∀ c storage, go (c.onStorage storage) = go c) ∧ ∀ c, (go c).Blind
  | .act _ go => ∀ b, (go b).Blind
  | .calls _ go => ∀ as, (go as).Blind

/-- A job that waits, and will go on in the same way on every storage. -/
def Paused.Blind {α : Type} : Paused α → Prop
  | .ended _ => True
  | .waiting _ go => ∀ as, (go as).Blind

namespace Job.Blind

variable {α β : Type}

/-- A job behind a blind job is blind if it is so for every result. -/
theorem bind {f : α → Job β} {j : Job α} (h : j.Blind)
    (hf : ∀ r, (f r).Blind) : (j.bind f).Blind := by
  induction j with
  | done result => exact hf result
  | read go ih =>
      refine ⟨fun c storage => ?_, fun c => ih c (h.2 c)⟩
      show (go (c.onStorage storage)).bind f = (go c).bind f
      rw [h.1]
  | act a go ih => exact fun b => ih b (h b)
  | calls cs go ih => exact fun as => ih as (h as)

/-- Looking at what is the same on every storage is blind. -/
theorem ask {f : Console → α} (h : ∀ c storage, f (c.onStorage storage) = f c) :
    (Job.ask f).Blind :=
  ⟨fun c storage => congrArg Job.done (h c storage), fun _ => trivial⟩

/-- What comes of an act depends on what the act tells, and nothing
more. -/
theorem perform (a : Act) : (Job.perform a).Blind := fun _ => trivial

/-- What comes of a call depends on its outcome, and nothing more. -/
theorem call (call : Call) : (Job.call call).Blind := fun _ => trivial

/-- A blind job goes on alike on consoles that are alike: it ends with the
same result, or waits for the same replies. -/
theorem advance {j : Job α} : ∀ {c d : Console} (next : Nat), j.Blind →
    c.Alike d →
    SameStep (j.advance next c) (j.advance next d)
      ∧ j.trail next d = j.trail next c
      ∧ (j.advance next c).1.Blind := by
  induction j with
  | done result => intro c d next _ h; exact ⟨⟨rfl, h⟩, rfl, trivial⟩
  | read go ih =>
      intro c d next hj h
      have hgo : go d = go c := by
        obtain ⟨storage, rfl⟩ := h
        exact hj.1 c storage
      show SameStep ((go c).advance next c) ((go d).advance next d)
        ∧ (go d).trail next d = (go c).trail next c ∧ _
      rw [hgo]
      exact ih c next (hj.2 c) h
  | act a go ih =>
      intro c d next hj h
      obtain ⟨htold, hacted⟩ := h.apply a
      have hgo := ih (a.apply c).1 next (hj _) hacted
      simp only [Job.advance, Job.trail, htold]
      exact ⟨hgo.1, congrArg _ hgo.2.1, hgo.2.2⟩
  | calls cs go ih =>
      intro c d next hj h
      obtain ⟨⟨hslots, halike⟩, hsent⟩ := Alike.send cs next h
      -- either nothing has to be waited for, and the job goes on at
      -- once, or it waits with the same slots
      cases has : (Slots.send next c cs).1.answers? with
      | some as =>
          have has' : (Slots.send next d cs).1.answers? = some as := by
            rw [hslots]
            exact has
          have hgo := ih as next (hj as) halike
          rw [advance_calls_of_some has, advance_calls_of_some has']
          simp only [Job.trail, has, has', hsent]
          exact ⟨hgo.1, congrArg _ hgo.2.1, hgo.2.2⟩
      | none =>
          have has' : (Slots.send next d cs).1.answers? = none := by
            rw [hslots]
            exact has
          rw [advance_calls_of_none has, advance_calls_of_none has']
          simp only [Job.trail, has, has', hsent]
          exact ⟨⟨by rw [hslots], halike⟩, trivial, hj⟩

end Job.Blind

/-- A blind job that is handed a reply goes on alike. -/
theorem Paused.Blind.deliver {α : Type} {p : Paused α} {c d : Console}
    (hp : p.Blind) (h : c.Alike d) (next number : Nat) (reply : Reply) :
    SameStep (p.deliver next number reply c) (p.deliver next number reply d)
      ∧ p.deliverTrail next number reply d
          = p.deliverTrail next number reply c
      ∧ (p.deliver next number reply c).1.Blind := by
  cases p with
  | ended result => exact ⟨⟨rfl, h⟩, rfl, trivial⟩
  | waiting slots go =>
      obtain ⟨hslots, halike⟩ := h.deliver number reply slots
      cases has : (slots.deliver number reply c).1.answers? with
      | some as =>
          have has' : (slots.deliver number reply d).1.answers?
              = some as := by
            rw [hslots]
            exact has
          have hgo := Job.Blind.advance next (hp as) halike
          rw [deliver_of_some has, deliver_of_some has']
          simp only [deliverTrail, has, has']
          exact ⟨hgo.1, congrArg _ hgo.2.1, hgo.2.2⟩
      | none =>
          have has' : (slots.deliver number reply d).1.answers? = none := by
            rw [hslots]
            exact has
          rw [deliver_of_none has, deliver_of_none has']
          simp only [deliverTrail, has, has']
          exact ⟨⟨by rw [hslots], halike⟩, trivial, hp⟩

-- =================================================================== tasks

namespace Console

open Job (Blind)

/-- Loading the branding is a call, and caching what it says. -/
theorem loadBranding_blind : loadBranding.Blind :=
  (Blind.call _).bind fun _ => (Blind.perform _).bind fun _ => trivial

/-- Signing in establishes a session if the call is answered well.
Whether the writes of the session went well is not asked. -/
theorem login_blind (creds : Credentials) : (login creds).Blind := by
  unfold login
  cases creds.violations with
  | cons v vs => trivial
  | nil =>
      refine (Blind.call _).bind fun outcome => ?_
      cases outcome with
      | ok value => exact (Blind.perform _).bind fun _ => trivial
      | error e => trivial

/-- Checking a token asks for the token in memory, and by the outcome of
the call refreshes the user or ends the session of that token. -/
theorem revalidate_blind : revalidate.Blind := by
  refine (Blind.ask fun _ _ => rfl).bind fun token => ?_
  cases token with
  | none => trivial
  | some token =>
      refine (Blind.call _).bind fun outcome => ?_
      cases outcome with
      | ok value => exact (Blind.perform _).bind fun _ => trivial
      | error e => exact (Blind.perform _).bind fun _ => trivial

end Console

/-- Blind jobs are a family: each way of putting tasks together keeps
a job blind, and the three parts that act in ways of their own are
blind. -/
theorem Job.Blind.family : Job.Family @Job.Blind where
  done := fun _ => trivial
  bind := Job.Blind.bind
  read := fun h hgo => ⟨h, hgo⟩
  calls := fun hgo => hgo
  act := fun _ hgo => hgo
  loadBranding := Console.loadBranding_blind
  login := Console.login_blind
  revalidate := Console.revalidate_blind

/-- No task looks at the storage. -/
theorem Task.blind (t : Task) : t.job.Blind := by
  by_cases hact : ∃ a, t = .perform a
  · obtain ⟨a, rfl⟩ := hact
    exact fun _ => trivial
  · exact Job.Blind.family.task t fun a ha => hact ⟨a, ha⟩

end SecurityConsole
