/-
Signals, and the loads that the listener begins because of them.

Along a trail the listener is in one of three phases: it has nothing to
do, it has just received a signal, or its load is under way. It receives
in the first phase only, and leaves the second one at once, with the next
happening (`Phase.Step`). Every run takes this path (`run_path`), and the
rest is read off it: loads take turns (`Phase.Path.inTurn`); receiving is
paid for with signals that were heard (`Phase.Path.reloads_le`), one each
as long as the channel loses none (`Phase.Path.reloads_eq`); and a signal
that was heard stays in the channel until something is received
(`Phase.Path.received_or_unread`).
-/
import SecurityConsole.Proofs.Branding.Converging

namespace SecurityConsole

open Console (brandingCall loadBranding)

-- ============================================================= happenings

namespace Happening

/-- A job's own happening: signals are neither sent nor received by it. -/
def Own : Happening → Prop
  | .signalled | .received => False
  | .acted _ | .sent _ | .settled .. => True

def isReceived : Happening → Bool
  | .received => true
  | _ => false

def isSignalled : Happening → Bool
  | .signalled => true
  | _ => false

/-- Whether the console is told to listen. -/
def isListen : Happening → Bool
  | .acted .listen => true
  | _ => false

/-- Only the act of listening tells the console to listen. -/
theorem isListen_iff {x : Happening} :
    x.isListen = true ↔ x = .acted .listen := by
  constructor
  · intro h
    cases x with
    | acted a =>
        cases a with
        | listen => rfl
        | _ => cases h
    | _ => cases h
  · rintro rfl
    rfl

/-- A job's own happening is no receiving. -/
theorem Own.ne_received {x : Happening} (h : x.Own) : x ≠ .received := by
  rintro rfl
  exact h

end Happening

/-- Calls are sent, or lost. -/
theorem Slots.sendTrail_own (cs : List Call) : ∀ (next : Nat) (c : Console),
    ∀ x ∈ sendTrail next c cs, x.Own := by
  induction cs with
  | nil => intro next c x hx; cases hx
  | cons call rest ih =>
      intro next c x hx
      cases h : c.request? call with
      | some request =>
          rw [sendTrail_cons_of_some h] at hx
          rcases List.mem_cons.1 hx with rfl | hx
          · trivial
          · exact ih _ _ x hx
      | none =>
          rw [sendTrail_cons_of_none h] at hx
          rcases List.mem_cons.1 hx with rfl | hx
          · trivial
          · exact ih _ _ x hx

/-- A slot is settled. -/
theorem Slots.deliverTrail_own (number : Nat) (reply : Reply) :
    ∀ {cs : List Call} (slots : Slots cs),
      ∀ x ∈ slots.deliverTrail number reply, x.Own := by
  intro cs
  induction cs with
  | nil => intro slots x hx; cases hx
  | cons call rest ih =>
      rintro ⟨slot, slots⟩ x hx
      cases slot with
      | settled outcome => exact ih slots x hx
      | pending n request =>
          by_cases h : n = number
          · simp only [deliverTrail, h, if_true, List.mem_singleton] at hx
            rw [hx]
            trivial
          · simp only [deliverTrail, h, if_false] at hx
            exact ih slots x hx

section
variable {α : Type}

/-- A job acts, sends and settles, and nothing else. -/
theorem Job.trail_own (next : Nat) (j : Job α) : ∀ c : Console,
    ∀ x ∈ j.trail next c, x.Own := by
  induction j with
  | done result => intro c x hx; cases hx
  | read go ih => intro c; exact ih c c
  | act a go ih =>
      intro c x hx
      rcases List.mem_cons.1 hx with rfl | hx
      · trivial
      · exact ih _ _ x hx
  | calls cs go ih =>
      intro c x hx
      unfold trail at hx
      rcases List.mem_append.1 hx with hx | hx
      · exact Slots.sendTrail_own cs next c x hx
      · cases h : (Slots.send next c cs).1.answers? with
        | some as =>
            rw [h] at hx
            exact ih as _ x hx
        | none =>
            rw [h] at hx
            cases hx

/-- So does a job that is handed a reply. -/
theorem Paused.deliverTrail_own (next number : Nat) (reply : Reply)
    (c : Console) (p : Paused α) :
    ∀ x ∈ p.deliverTrail next number reply c, x.Own := by
  intro x hx
  cases p with
  | ended result => cases hx
  | waiting slots go =>
      rcases List.mem_append.1 hx with hx | hx
      · exact slots.deliverTrail_own number reply x hx
      · cases h : (slots.deliver number reply c).1.answers? with
        | some as =>
            rw [h] at hx
            exact Job.trail_own next (go as) _ x hx
        | none =>
            rw [h] at hx
            cases hx

end

-- ================================================================= phases

/-- What the listener is doing. -/
inductive Phase where
  | idle
  /-- It has received a signal, and its load is to begin. -/
  | received
  /-- The load that it has sent is under way. -/
  | loading (s : Sent)

namespace Phase

/-- What a happening to a console can mean for the listener. -/
inductive Step (c : Console) : Happening → Phase → Phase → Prop where
  | receives {channel : Channel}
      (h : c.channel.bind Channel.receive? = some channel) :
      Step c .received .idle .received
  | sends {s : Sent} (hcall : s.call = brandingCall)
      (h : c.request? brandingCall = some s.request) :
      Step c (.sent s) .received (.loading s)
  | loses {token : Option String} (h : c.request? brandingCall = none) :
      Step c (.settled brandingCall token .lost) .received .idle
  | settles {s : Sent} {reply : Reply} :
      Step c (.settled s.call s.request.token reply) (.loading s) .idle
  /-- It is none of the listener's business. -/
  | aside {x : Happening} {p : Phase} (hx : x ≠ .received)
      (hp : p ≠ .received) : Step c x p p

/-- The way of the listener along a trail. -/
inductive Path : Console → Phase → List Happening → Phase → Prop where
  | nil {c : Console} {p : Phase} : Path c p [] p
  | cons {c : Console} {p q r : Phase} {x : Happening}
      {hs : List Happening} (h : Step c x p q)
      (hrest : Path (x.apply c) q hs r) : Path c p (x :: hs) r

namespace Path

variable {c : Console} {p q r : Phase} {hs ks : List Happening}
  {x : Happening} {s : Sent}

/-- Two stretches of the way, one behind the other. -/
theorem append (h : Path c p hs q) (k : Path (replay c hs) q ks r) :
    Path c p (hs ++ ks) r := by
  induction h with
  | nil => exact k
  | cons hstep _ ih => exact .cons hstep (ih k)

/-- A way along two stretches has a phase where the first one ends. -/
theorem split : ∀ {hs : List Happening} {c : Console} {p : Phase},
    Path c p (hs ++ ks) r →
      ∃ q, Path c p hs q ∧ Path (replay c hs) q ks r := by
  intro hs
  induction hs with
  | nil => intro c p h; exact ⟨p, .nil, h⟩
  | cons x hs ih =>
      intro c p h
      cases h with
      | cons hstep hrest =>
          obtain ⟨q, hfirst, hlast⟩ := ih hrest
          exact ⟨q, .cons hstep hfirst, hlast⟩

/-- As long as nothing is received, the listener stays in its phase,
unless it has just received something. -/
theorem aside (hp : p ≠ .received) : ∀ {hs : List Happening} {c : Console},
    (∀ x ∈ hs, x ≠ .received) → Path c p hs p := by
  intro hs
  induction hs with
  | nil => intro c _; exact .nil
  | cons x hs ih =>
      intro c hall
      exact .cons (.aside (hall x List.mem_cons_self) hp)
        (ih fun y hy => hall y (List.mem_cons_of_mem x hy))

/-- A load that is over was settled. -/
theorem settled_of_idle : ∀ {hs : List Happening} {c : Console},
    Path c (.loading s) hs .idle →
      ∃ reply, .settled s.call s.request.token reply ∈ hs := by
  intro hs
  induction hs with
  | nil => intro c h; cases h
  | cons x hs ih =>
      intro c h
      cases h with
      | cons hstep hrest =>
          cases hstep with
          | @settles _ reply => exact ⟨reply, List.mem_cons_self⟩
          | aside hx hp =>
              obtain ⟨reply, hmem⟩ := ih hrest
              exact ⟨reply, List.mem_cons_of_mem x hmem⟩

end Path
end Phase

-- ================================================================== turns

/-- The listener receives nothing more before its load is settled. -/
def InTurn (hs : List Happening) : Prop :=
  ∀ before s between behind,
    hs = before ++ .received :: .sent s :: between
        ++ .received :: behind →
      ∃ reply, .settled s.call s.request.token reply ∈ between

/-- The load that the listener has sent last, having received nothing
since. -/
def SentLast (hs : List Happening) (s : Sent) : Prop :=
  ∃ before behind, hs = before ++ .received :: .sent s :: behind
    ∧ ∀ x ∈ behind, x ≠ .received

/-- Behind what it has received, the listener begins a load: the call is
sent next, or it is lost, as its request cannot be written. -/
inductive Begins (c : Console) : List Happening → Prop where
  | sent {s : Sent} {behind : List Happening} (hcall : s.call = brandingCall)
      (h : c.request? brandingCall = some s.request) :
      Begins c (.sent s :: behind)
  | lost {token : Option String} {behind : List Happening}
      (h : c.request? brandingCall = none) :
      Begins c (.settled brandingCall token .lost :: behind)

/-- Somewhere along a trail, the listener receives something and begins a
load. -/
def ReloadsIn (c : Console) (hs : List Happening) : Prop :=
  ∃ before behind, hs = before ++ .received :: behind
    ∧ Begins (replay c (before ++ [.received])) behind

namespace Phase.Path

variable {c : Console} {p q : Phase} {hs behind : List Happening} {s : Sent}

/-- From one receiving to the next the way leads through a load that is
settled: receiving leaves the first phase, a load that is sent enters
the third, and only its reply leads back. -/
theorem inTurn (h : Path c p hs q) : InTurn hs := by
  rintro before s between behind rfl
  obtain ⟨r, hfirst, hlast⟩ := h.split
  obtain ⟨_, -, hload⟩ := hfirst.split
  -- the two receivings, and between them the load that was sent; each
  -- other step does not fit its happening
  cases hload with
  | cons hreceived hrest =>
    cases hrest with
    | cons hsent hload =>
      cases hlast with
      | cons hagain _ =>
        cases hreceived with
        | aside hx hp => exact absurd rfl hx
        | receives hc =>
          cases hagain with
          | aside hx hp => exact absurd rfl hx
          | receives hc =>
            cases hsent with
            | aside hx hp => exact absurd rfl hp
            | sends hcall hr => exact hload.settled_of_idle

/-- Behind what was received, the very next happening begins the
load. -/
theorem begins (h : Path c .received hs q) (hq : q ≠ .received) :
    Begins c hs := by
  cases h with
  | nil => exact absurd rfl hq
  | cons hstep _ =>
      cases hstep with
      | sends hcall hr => exact .sent hcall hr
      | loses hr => exact .lost hr
      | aside hx hp => exact absurd rfl hp

/-- Where the listener receives something, there is a channel, and a load
begins. -/
theorem begins_of_received {before : List Happening}
    (h : Path c p (before ++ .received :: behind) q)
    (hq : q ≠ .received) :
    (replay c before).isListening = true
      ∧ Begins (replay c (before ++ [.received])) behind := by
  obtain ⟨_, -, hrest⟩ := h.split
  cases hrest with
  | cons hstep hload =>
      cases hstep with
      | aside hx hp => exact absurd rfl hx
      | @receives channel hc =>
          refine ⟨?_, ?_⟩
          · unfold Console.isListening
            cases hchannel : (replay c before).channel with
            | some channel => rfl
            | none =>
                rw [hchannel] at hc
                cases hc
          · rw [replay_append]
            exact hload.begins hq

/-- A load that is under way in the end was under way already, or is the
one that was sent last. -/
theorem sentLast : ∀ {hs : List Happening} {c : Console} {p : Phase},
    Path c p hs (.loading s) →
      (p = .loading s ∧ ∀ x ∈ hs, x ≠ .received)
        ∨ (p = .received ∧ ∃ behind, hs = .sent s :: behind
          ∧ ∀ x ∈ behind, x ≠ .received)
        ∨ SentLast hs s := by
  intro hs
  induction hs with
  | nil =>
      intro c p h
      cases h
      exact .inl ⟨rfl, fun _ hx => absurd hx List.not_mem_nil⟩
  | cons x hs ih =>
      intro c p h
      cases h with
      | cons hstep hrest =>
      rcases ih hrest with
        ⟨rfl, hall⟩ | ⟨rfl, behind, rfl, hall⟩ | ⟨before, behind, rfl, hall⟩
      · cases hstep with
        | sends hcall hr => exact .inr (.inl ⟨rfl, hs, rfl, hall⟩)
        | aside hx hp =>
            refine .inl ⟨rfl, fun y hy => ?_⟩
            rcases List.mem_cons.1 hy with rfl | hy
            · exact hx
            · exact hall y hy
      · cases hstep with
        | receives hc => exact .inr (.inr ⟨[], behind, rfl, hall⟩)
        | aside hx hp => exact absurd rfl hp
      · exact .inr (.inr ⟨x :: before, behind, rfl, hall⟩)

end Phase.Path

-- =============================================================== counting

/-- How often a console will receive something. -/
def Console.unread (c : Console) : Nat :=
  (c.channel.map Channel.backlog).getD 0

/-- The number of loads that the listener begins. -/
def reloads (hs : List Happening) : Nat := hs.countP Happening.isReceived

/-- The number of signals that are sent while the console listens. -/
def heard (c : Console) : List Happening → Nat
  | [] => 0
  | x :: hs =>
    (x.isSignalled && c.isListening).toNat + heard (x.apply c) hs

/-- How often a console begins to listen: each time, with a listener of
its own. -/
def subscriptions (c : Console) : List Happening → Nat
  | [] => 0
  | x :: hs =>
    (x.isListen && !c.isListening).toNat + subscriptions (x.apply c) hs

/-- No signal was lost since the listener was last told. -/
def Console.LagFree (c : Console) : Prop :=
  ∀ channel, c.channel = some channel → channel.lagged = false

namespace Channel

/-- A signal adds one to what will be received, at most: a channel that
is full makes one lag of all that it loses. -/
theorem backlog_send_le (c : Channel) : c.send.backlog ≤ c.backlog + 1 := by
  by_cases h : c.waiting < capacity
  · exact Nat.le_of_eq (backlog_send h)
  · unfold send backlog
    rw [if_neg h]
    show c.waiting + 1 ≤ _
    omega

-- what is lost of a burst is received as one lag
example : (Nat.repeat send 20 empty).backlog = 17 := by decide

/-- Where there is room, no signal is lost. -/
theorem send_lagged {c : Channel} (h : c.waiting < capacity) :
    c.send.lagged = c.lagged := by
  unfold send
  rw [if_pos h]

/-- A lag is told once. Behind it, or without one, nothing is
lagging. -/
theorem receive?_lagged {c d : Channel} (h : c.receive? = some d) :
    d.lagged = false := by
  unfold receive? at h
  cases hl : c.lagged with
  | true =>
      rw [hl, if_pos rfl] at h
      rw [← Option.some.inj h]
  | false =>
      rw [hl, if_neg Bool.false_ne_true] at h
      split at h
      · rw [← Option.some.inj h]
      · cases h

end Channel

/-- Loads are counted by what is received, happening by happening. -/
theorem reloads_cons (x : Happening) (hs : List Happening) :
    reloads (x :: hs) = x.isReceived.toNat + reloads hs := by
  unfold reloads
  rw [List.countP_cons]
  cases x.isReceived with
  | true => exact Nat.add_comm ..
  | false => exact (Nat.zero_add _).symm

namespace Happening

variable {c : Console} {x : Happening}

/-- A happening of a job leaves the channel, or opens an empty one. -/
theorem Own.channel (h : x.Own) (c : Console) :
    (x.apply c).channel = c.channel
      ∨ (c.channel = none ∧ (x.apply c).channel = some .empty) := by
  cases x with
  | signalled => exact h.elim
  | received => exact h.elim
  | sent s => exact .inl rfl
  | settled call token reply =>
      exact .inl (c.settle_keeps call token reply).2.1
  | acted a =>
      cases a with
      | listen =>
          show c.listen.channel = _ ∨ _ ∧ c.listen.channel = _
          cases hc : c.channel with
          | some channel =>
              left
              have hkept := Act.apply_channel hc .listen
              exact hkept
          | none =>
              refine .inr ⟨rfl, ?_⟩
              unfold Console.listen
              rw [hc]
      | _ => exact .inl rfl

/-- A job leaves what is unread; an empty channel that it opens has
nothing to be read. -/
theorem Own.unread (h : x.Own) (c : Console) :
    (x.apply c).unread = c.unread := by
  unfold Console.unread
  rcases h.channel c with hkept | ⟨hnone, hsome⟩
  · rw [hkept]
  · rw [hnone, hsome]
    rfl

/-- And it brings no lag about. -/
theorem Own.lagFree (h : x.Own) (hc : c.LagFree) :
    (x.apply c).LagFree := by
  intro channel hchannel
  rcases h.channel c with hkept | ⟨-, hsome⟩
  · exact hc channel (hkept ▸ hchannel)
  · rw [hsome] at hchannel
    rw [← Option.some.inj hchannel]
    rfl

/-- What a job does counts neither as a signal nor as received. -/
theorem Own.counts (h : x.Own) :
    x.isReceived = false ∧ x.isSignalled = false := by
  cases x with
  | signalled => exact h.elim
  | received => exact h.elim
  | _ => exact ⟨rfl, rfl⟩

/-- Receiving takes one from what is unread, and what is left has no
lag. -/
theorem received_unread {channel : Channel}
    (h : c.channel.bind Channel.receive? = some channel) :
    (Happening.received.apply c).unread + 1 = c.unread
      ∧ (Happening.received.apply c).LagFree := by
  rw [Workload.received_apply h]
  obtain ⟨old, hold, hrest⟩ := Option.bind_eq_some_iff.1 h
  refine ⟨?_, ?_⟩
  · unfold Console.unread
    rw [hold]
    exact (Channel.backlog_receive? hrest).symm
  · intro d hd
    rw [← Option.some.inj hd]
    exact Channel.receive?_lagged hrest

/-- A signal adds one to what is unread, at most, and nothing if nobody
listens. -/
theorem signalled_unread_le (c : Console) :
    c.signal.unread ≤ c.unread + c.isListening.toNat := by
  unfold Console.unread Console.isListening Console.signal
  cases c.channel with
  | none => exact Nat.le_refl _
  | some channel => exact channel.backlog_send_le

/-- As long as there is room, a signal that is heard is one more unread,
and none is lost. -/
theorem signalled_unread (hc : c.LagFree)
    (hroom : c.unread + c.isListening.toNat ≤ Channel.capacity) :
    c.signal.unread = c.unread + c.isListening.toNat
      ∧ c.signal.LagFree := by
  unfold Console.unread Console.isListening Console.LagFree
    Console.signal at *
  cases hchannel : c.channel with
  | none => exact ⟨rfl, nofun⟩
  | some channel =>
      rw [hchannel] at hroom
      have hlag := hc channel hchannel
      have hwaiting : channel.waiting < Channel.capacity := by
        have hbacklog : channel.backlog + 1 ≤ Channel.capacity := hroom
        unfold Channel.backlog at hbacklog
        omega
      refine ⟨Channel.backlog_send hwaiting, fun d hd => ?_⟩
      rw [← Option.some.inj hd, Channel.send_lagged hwaiting, hlag]

/-- Where something is unread, there is a channel. -/
theorem isListening_of_unread (h : 1 ≤ c.unread) :
    c.isListening = true := by
  unfold Console.unread at h
  unfold Console.isListening
  cases hc : c.channel with
  | some channel => rfl
  | none =>
      rw [hc] at h
      exact absurd h (by decide)

/-- Behind a signal that is heard something is unread. -/
theorem one_le_unread_signal (h : c.isListening = true) :
    1 ≤ c.signal.unread := by
  obtain ⟨channel, hc⟩ := Option.isSome_iff_exists.1 h
  unfold Console.unread Console.signal
  rw [hc]
  exact channel.one_le_backlog_send

/-- A console that listens goes on to listen, and one that does not begins
when it is told to. -/
theorem apply_isListening (c : Console) (x : Happening) :
    (x.apply c).isListening = (c.isListening || x.isListen) := by
  unfold Console.isListening
  cases x with
  | signalled =>
      show (c.channel.map _).isSome = (_ || false)
      rw [Option.isSome_map, Bool.or_false]
  | received =>
      unfold apply
      cases hc : c.channel.bind Channel.receive? with
      | none => exact (Bool.or_false _).symm
      | some channel =>
          obtain ⟨old, hold, -⟩ := Option.bind_eq_some_iff.1 hc
          rw [hold]
          rfl
  | sent s => exact (Bool.or_false _).symm
  | settled call token reply =>
      have hkept := (c.settle_keeps call token reply).2.1
      exact (congrArg Option.isSome hkept).trans (Bool.or_false _).symm
  | acted a =>
      cases a with
      | listen =>
          show c.listen.channel.isSome = _
          unfold Console.listen
          cases hc : c.channel with
          | some channel => rw [hc]; rfl
          | none => rfl
      | _ => exact (Bool.or_false _).symm

end Happening

section
variable {c : Console}

/-- A console listens once it was told to, and from then on. -/
theorem replay_isListening (hs : List Happening) : ∀ c : Console,
    (replay c hs).isListening
      = (c.isListening || hs.any Happening.isListen) := by
  induction hs with
  | nil => intro c; exact (Bool.or_false _).symm
  | cons x hs ih =>
      intro c
      rw [replay_cons, ih, Happening.apply_isListening, List.any_cons,
        Bool.or_assoc]

/-- A console that listens has begun to once. -/
theorem subscriptions_eq (hs : List Happening) : ∀ c : Console,
    c.isListening.toNat + subscriptions c hs
      = (replay c hs).isListening.toNat := by
  induction hs with
  | nil => intro c; rfl
  | cons x hs ih =>
      intro c
      have hrest := ih (x.apply c)
      have hone : c.isListening.toNat
            + (x.isListen && !c.isListening).toNat
          = (x.apply c).isListening.toNat := by
        rw [Happening.apply_isListening]
        cases c.isListening <;> cases x.isListen <;> rfl
      rw [replay_cons, ← hrest, ← hone, subscriptions, Nat.add_assoc]

end

namespace Phase

variable {c : Console} {p q : Phase} {x : Happening} {hs : List Happening}

/-- A happening of a job, a signal, or something that is received. -/
theorem Step.cases (h : p.Step c x q) :
    x.Own ∨ x = .signalled
      ∨ x = .received ∧ ∃ channel,
        c.channel.bind Channel.receive? = some channel := by
  cases h with
  | @receives channel hc => exact .inr (.inr ⟨rfl, channel, hc⟩)
  | aside hx hp =>
      cases x with
      | received => exact absurd rfl hx
      | signalled => exact .inr (.inl rfl)
      | _ => exact .inl trivial
  | _ => exact .inl trivial

/-- Whatever is received was unread, and only signals that are heard add
to what is unread. -/
theorem Step.unread_le (h : p.Step c x q) :
    x.isReceived.toNat + (x.apply c).unread
      ≤ c.unread + (x.isSignalled && c.isListening).toNat := by
  -- by a job, by a signal, by receiving
  rcases h.cases with hown | rfl | ⟨rfl, channel, hc⟩
  · obtain ⟨hreceived, hsignalled⟩ := hown.counts
    rw [hown.unread, hreceived, hsignalled]
    simp only [Bool.false_and, Bool.toNat_false]
    omega
  · have hle := Happening.signalled_unread_le c
    show 0 + c.signal.unread ≤ c.unread + c.isListening.toNat
    omega
  · have hunread := (Happening.received_unread hc).1
    show 1 + _ ≤ c.unread + 0
    omega

/-- As long as there is room, this is exact. -/
theorem Step.unread_eq (h : p.Step c x q) (hc : c.LagFree)
    (hroom : c.unread + (x.isSignalled && c.isListening).toNat
      ≤ x.isReceived.toNat + Channel.capacity) :
    x.isReceived.toNat + (x.apply c).unread
        = c.unread + (x.isSignalled && c.isListening).toNat
      ∧ (x.apply c).LagFree := by
  rcases h.cases with hown | rfl | ⟨rfl, channel, hr⟩
  · obtain ⟨hreceived, hsignalled⟩ := hown.counts
    refine ⟨?_, hown.lagFree hc⟩
    rw [hown.unread, hreceived, hsignalled]
    simp only [Bool.false_and, Bool.toNat_false]
    omega
  · have hheard : c.unread + c.isListening.toNat ≤ 0 + Channel.capacity :=
      hroom
    obtain ⟨hunread, hlag⟩ := Happening.signalled_unread hc (by omega)
    refine ⟨?_, hlag⟩
    show 0 + c.signal.unread = c.unread + c.isListening.toNat
    omega
  · obtain ⟨hunread, hlag⟩ := Happening.received_unread hr
    refine ⟨?_, hlag⟩
    show 1 + _ = c.unread + 0
    omega

namespace Path

/-- What was received and what is still unread together are no more than
the signals that were heard. -/
theorem reloads_le (h : Path c p hs q) :
    reloads hs + (replay c hs).unread ≤ c.unread + heard c hs := by
  induction h with
  | nil => exact Nat.le_of_eq (Nat.add_comm ..)
  | @cons c _ _ _ x hs hstep _ ih =>
      have hx := hstep.unread_le
      rw [replay_cons, reloads_cons, heard]
      omega

/-- As long as the channel has room for all that is unread, each signal
that is heard is received once, or still unread. -/
theorem reloads_eq (h : Path c p hs q) (hc : c.LagFree)
    (hroom : ∀ before behind, hs = before ++ behind →
      c.unread + heard c before ≤ reloads before + Channel.capacity) :
    reloads hs + (replay c hs).unread = c.unread + heard c hs := by
  induction h with
  | nil => exact Nat.add_comm ..
  | @cons c _ _ _ x hs hstep _ ih =>
      have hfirst := hroom [x] hs rfl
      rw [heard, reloads_cons] at hfirst
      obtain ⟨hx, hlag⟩ := hstep.unread_eq hc hfirst
      have hrest := ih hlag (by
        rintro before behind rfl
        have hmore := hroom (x :: before) behind rfl
        rw [heard, reloads_cons] at hmore
        omega)
      rw [replay_cons, reloads_cons, heard]
      omega

/-- What is unread stays so until the listener receives something. -/
theorem received_or_unread (h : Path c p hs q) (hc : 1 ≤ c.unread) :
    (∃ before behind, hs = before ++ .received :: behind)
      ∨ 1 ≤ (replay c hs).unread := by
  induction h with
  | nil => exact .inr hc
  | @cons c _ _ _ x hs hstep _ ih =>
      have hlater : 1 ≤ (x.apply c).unread →
          (∃ before behind, x :: hs = before ++ .received :: behind)
            ∨ 1 ≤ (replay c (x :: hs)).unread := by
        intro hunread
        rcases ih hunread with ⟨before, behind, rfl⟩ | hlast
        · exact .inl ⟨x :: before, behind, rfl⟩
        · exact .inr hlast
      -- a job leaves what is unread, a signal adds to it, and receiving
      -- is what was looked for
      rcases hstep.cases with hown | rfl | ⟨rfl, -⟩
      · refine hlater ?_
        rw [hown.unread]
        exact hc
      · exact hlater (Happening.one_le_unread_signal
          (Happening.isListening_of_unread hc))
      · exact .inl ⟨[], hs, rfl⟩

end Path
end Phase

-- =================================================================== runs

namespace Workload

section
variable {α : Type}

/-- The phase that the listener of a workload is in between moves. -/
def InPhase (w : Workload α) : Phase → Prop
  | .idle => w.reload = none
  | .received => False
  | .loading s =>
    s.call = brandingCall ∧ w.reload = some (loading s.number s.request)

/-- Happenings along which the listener of a workload goes on to that of
another one. -/
def Heeds (w : Workload α) (hs : List Happening) (v : Workload α) : Prop :=
  ∀ p, w.InPhase p → ∃ q, Phase.Path w.console p hs q ∧ v.InPhase q

variable {w v u : Workload α} {hs ks : List Happening}

/-- Between moves, the listener has always begun the load for what it
has received. -/
theorem InPhase.ne_received {p : Phase} (h : w.InPhase p) :
    p ≠ .received := by
  rintro rfl
  exact h

/-- Two stretches that the listener heeds, one behind the other. -/
theorem Heeds.trans (h : Heeds w hs v) (hv : v.console = replay w.console hs)
    (k : Heeds v ks u) : Heeds w (hs ++ ks) u := by
  intro p hp
  obtain ⟨q, hfirst, hq⟩ := h p hp
  obtain ⟨r, hlast, hr⟩ := k q hq
  rw [hv] at hlast
  exact ⟨r, hfirst.append hlast, hr⟩

/-- What jobs do is none of the listener's business. -/
theorem Heeds.own (hown : ∀ x ∈ hs, x.Own) (hv : v.reload = w.reload) :
    Heeds w hs v := by
  intro p hp
  refine ⟨p, .aside hp.ne_received fun x hx => (hown x hx).ne_received, ?_⟩
  cases p with
  | idle => exact hv.trans hp
  | received => exact hp
  | loading s => exact ⟨hp.1, hv.trans hp.2⟩

/-- The listener's load, from its reply on. -/
theorem loading_deliver_path (next n : Nat) (request : Request)
    (reply : Reply) (c : Console) :
    Phase.Path c (.loading ⟨n, brandingCall, request⟩)
      ((loading n request).deliverTrail next n reply c) .idle := by
  obtain ⟨as, -, htrail⟩ := load_deliver (k := fun _ => .done ()) next n
    request reply c
  have hsettled : (loading n request).deliverTrail next n reply c
      = cachedTrail c request.token reply := htrail
  rw [hsettled]
  exact .cons (.settles (s := ⟨n, brandingCall, request⟩))
    (.cons (.aside nofun nofun) .nil)

/-- A signal that is received: from the first phase through the second
to the third, or back if the load is lost at once. Caching the default
behind a lost load is no business of the listener. -/
theorem received_heeds {channel : Channel} (hr : w.reload = none)
    (h : w.console.channel.bind Channel.receive? = some channel) :
    Heeds w (.received :: loadBranding.trail w.next
      { w.console with channel := some channel }) (w.received channel) := by
  have happly := received_apply h
  intro p hp
  cases p with
  | received => exact hp.elim
  | loading s =>
      have hbusy := hp.2
      rw [hr] at hbusy
      cases hbusy
  | idle =>
      cases hload : Console.request?
          { w.console with channel := some channel } brandingCall with
      | some request =>
          obtain ⟨-, hreload, htrail⟩ := received_of_some hload
          refine ⟨.loading ⟨w.next, brandingCall, request⟩,
            .cons (.receives h) ?_, rfl, hreload⟩
          rw [happly, htrail]
          exact .cons (.sends rfl hload) .nil
      | none =>
          obtain ⟨-, hreload, -⟩ := received_of_none hload
          obtain ⟨as, -, htrail⟩ := load_of_none
            (k := fun _ => .done ()) hload w.next
          refine ⟨.idle, .cons (.receives h) ?_, hreload⟩
          rw [happly, loadBranding_eq, htrail]
          exact .cons (.loses hload) (.cons (.aside nofun nofun) .nil)

/-- One look of the listener. -/
theorem listenOnce_heeds (w : Workload α) :
    Heeds w w.listenOnceTrail w.listenOnce := by
  have hstays : w.listenOnce = w ∧ w.listenOnceTrail = [] →
      Heeds w w.listenOnceTrail w.listenOnce := by
    rintro ⟨hnext, htrail⟩
    rw [hnext, htrail]
    exact fun p hp => ⟨p, .nil, hp⟩
  cases hr : w.reload with
  | some p => exact hstays (listenOnce_of_busy hr)
  | none =>
      cases hc : w.console.channel.bind Channel.receive? with
      | none => exact hstays (listenOnce_of_nothing hc)
      | some channel =>
          have hheeds := received_heeds hr hc
          unfold listenOnce listenOnceTrail
          rw [hr, hc]
          exact hheeds

/-- All looks of the listener. -/
theorem listen_heeds (w : Workload α) :
    Heeds w (w.listenTrail w.backlog) w.listen := by
  have hall : ∀ n, Heeds w (w.listenTrail n) (n.repeat listenOnce w) := by
    intro n
    induction n with
    | zero => exact fun p hp => ⟨p, .nil, hp⟩
    | succ n ih =>
        have hleads := listenFor_leads w n
        exact ih.trans hleads.console (listenOnce_heeds _)
  exact hall w.backlog

/-- The reply to the listener's load leads back to the first phase. -/
theorem reloaded_heeds {n : Nat} {request : Request}
    (hr : w.reload = some (loading n request)) (reply : Reply) :
    Heeds w ((loading n request).deliverTrail w.next n reply w.console)
      (w.reloaded (loading n request) n reply) := by
  intro p hp
  have hidle := (w.reloaded_eq n request reply).2.1
  cases p with
  | received => exact hp.elim
  | idle =>
      rw [show w.reload = none from hp] at hr
      cases hr
  | loading s =>
      obtain ⟨hcall, hreload⟩ := hp
      -- the load under way is the one that the reply goes to
      have hsame : [Sent.mk s.number brandingCall s.request]
          = [⟨n, brandingCall, request⟩] := by
        rw [hr] at hreload
        exact congrArg Paused.outstanding (Option.some.inj hreload).symm
      have hs : s = ⟨n, brandingCall, request⟩ := by
        rw [← List.singleton_inj.1 hsame, ← hcall]
      rw [hs]
      exact ⟨.idle, loading_deliver_path .., hidle⟩

/-- A reply leads the listener back and on to further signals, if it is
for its load; and if not, it is none of its business. -/
theorem deliver_heeds (h : w.Loads) (number : Nat) (reply : Reply) :
    Heeds w (w.deliverTrail number reply) (w.deliver number reply) := by
  rcases h.deliver_cases number reply with
    ⟨request, hr, hd, ht⟩ | ⟨before, name, p, behind, -, -, hd, ht⟩
      | ⟨-, -, hr, -, ht⟩
  · rw [hd, ht]
    have hleads := reloaded_leads hr number reply
    exact (reloaded_heeds hr reply).trans hleads.console (listen_heeds _)
  · rw [hd, ht]
    exact .own (p.deliverTrail_own w.next number reply w.console) rfl
  · rw [ht]
    exact .own (fun x hx => absurd hx List.not_mem_nil) hr

end

variable {w : Workload Report}

/-- One move. A signal is sent in any phase but the second, which never
lasts until the end of a move. -/
theorem step_heeds (h : w.Loads) (m : Move) :
    Heeds w (w.stepTrail m) (w.step m) := by
  cases m with
  | begin name task =>
      exact .own (task.job.trail_own w.next w.console) rfl
  | reply number reply => exact deliver_heeds h number reply
  | listen => exact listen_heeds w
  | collect => exact .own (fun x hx => absurd hx List.not_mem_nil) rfl
  | signal =>
      intro p hp
      refine ⟨p, .cons (.aside nofun hp.ne_received) .nil, ?_⟩
      cases p <;> exact hp

/-- Moves one after another. -/
theorem run_heeds (ms : List Move) : ∀ {w : Workload Report}, w.Loads →
    Heeds w (w.trail ms) (w.run ms) := by
  induction ms with
  | nil => intro w _ p hp; exact ⟨p, .nil, hp⟩
  | cons m ms ih =>
      intro w h
      have hleads := step_leads w m
      exact (step_heeds h m).trans hleads.console (ih (step_loads h m))

/-- The way of the listener in a run of a new console. -/
theorem run_path (baseUrl : String) (storage : Storage) (ms : List Move) :
    ∃ p, Phase.Path (.start baseUrl storage) .idle
          ((Console.fresh baseUrl storage).trail ms) p
        ∧ ((Console.fresh baseUrl storage).run ms).InPhase p :=
  run_heeds ms (run_loads baseUrl storage []) .idle rfl

/-- A console that listens, and to which a signal is sent then: once the
listener is idle, it has begun a load behind the signal. -/
theorem reloadsIn_of_signalled {c : Console} {p : Phase}
    {before behind : List Happening}
    (h : Phase.Path c p (before ++ .signalled :: behind) .idle)
    (hlistens : (replay c before).isListening = true)
    (hunread : (replay c (before ++ .signalled :: behind)).unread = 0) :
    ReloadsIn (replay c (before ++ [.signalled])) behind := by
  obtain ⟨q, -, hrest⟩ := h.split
  have hsignal : replay c (before ++ [.signalled])
      = (replay c before).signal := by
    rw [replay_append]
    rfl
  rw [replay_append, replay_cons] at hunread
  rw [hsignal]
  cases hrest with
  | cons _ hbehind =>
      have hone := Happening.one_le_unread_signal hlistens
      rcases hbehind.received_or_unread hone with
        ⟨first, last, rfl⟩ | hlast
      · have hbegins := (hbehind.begins_of_received nofun).2
        exact ⟨first, last, rfl, hbegins⟩
      · have hnone : (replay (replay c before).signal behind).unread = 0 :=
          hunread
        omega

/-- No signal is lost on a listener, and none is handled twice, whatever
happens in between: pages that load the branding, at the same time or
over and over, and replies in any order. -/
theorem run_heeds_signals (baseUrl : String) (storage : Storage)
    (ms : List Move) :
    let first := Console.fresh baseUrl storage
    let c := first.console
    let happened := first.trail ms
    let last := first.run ms
    -- there is one listener at most, from the first time that one is
    -- asked for
    subscriptions c happened ≤ 1
      ∧ (∀ before behind, happened = before ++ behind →
        ((replay c before).isListening = true
          ↔ .acted .listen ∈ before))
      -- its loads take turns, and the last one only may be under way
      ∧ InTurn happened
      ∧ (last.reload = none ∨ ∃ s,
        last.reload = some (loading s.number s.request)
          ∧ SentLast happened s)
      -- it begins a load whenever it receives something, which is after
      -- it was asked for, and not more often than there were signals
      ∧ (∀ before behind, happened = before ++ .received :: behind →
        (replay c before).isListening = true
          ∧ Begins (replay c (before ++ [.received])) behind)
      ∧ (∀ before behind, happened = before ++ behind →
        reloads before ≤ heard c before)
      -- as long as no more signals wait than the channel keeps, none of
      -- them shares its load with another
      ∧ ((∀ before behind, happened = before ++ behind →
          heard c before ≤ reloads before + Channel.capacity) →
        reloads happened + last.backlog = heard c happened)
      -- when it is idle, each signal has been followed by a load
      ∧ (last.reload = none → last.backlog = 0 →
        ∀ before behind, happened = before ++ .signalled :: behind →
          (replay c before).isListening = true →
            ReloadsIn (replay c (before ++ [.signalled])) behind) := by
  intro first c happened last
  obtain ⟨p, hpath, hp⟩ : ∃ p, Phase.Path c .idle happened p
      ∧ last.InPhase p := run_path baseUrl storage ms
  have hunread : last.backlog = (replay c happened).unread := by
    rw [← run_replay first ms]
    rfl
  refine ⟨?_, ?_, hpath.inTurn, ?_, ?_, ?_, ?_, ?_⟩
  · have hone : c.isListening.toNat + subscriptions c happened
        = (replay c happened).isListening.toNat :=
      subscriptions_eq happened c
    have hle := Bool.toNat_le (replay c happened).isListening
    omega
  · intro before behind _
    have hlistens : (replay c before).isListening
        = before.any Happening.isListen := replay_isListening before c
    rw [hlistens, List.any_eq_true]
    constructor
    · rintro ⟨x, hx, hlisten⟩
      rwa [Happening.isListen_iff.1 hlisten] at hx
    · intro hx
      exact ⟨_, hx, rfl⟩
  · cases p with
    | idle => exact .inl hp
    | received => exact hp.elim
    | loading s =>
        refine .inr ⟨s, hp.2, ?_⟩
        rcases hpath.sentLast with ⟨hidle, -⟩ | ⟨hidle, -⟩ | hlast
        · cases hidle
        · cases hidle
        · exact hlast
  · intro before behind hsplit
    have hbehind : Phase.Path c .idle (before ++ .received :: behind) p :=
      hsplit ▸ hpath
    exact hbehind.begins_of_received hp.ne_received
  · intro before behind hsplit
    have hbehind : Phase.Path c .idle (before ++ behind) p :=
      hsplit ▸ hpath
    obtain ⟨q, hbefore, -⟩ := hbehind.split
    have hle := hbefore.reloads_le
    have hnone : c.unread = 0 := rfl
    omega
  · intro hroom
    have hnone : c.unread = 0 := rfl
    have heq := hpath.reloads_eq nofun (fun before behind hsplit => by
      have hbefore := hroom before behind hsplit
      omega)
    omega
  · intro hidle hnone before behind hsplit hlistens
    cases p with
    | received => exact hp.elim
    | loading s =>
        have hbusy : last.reload = _ := hp.2
        rw [hidle] at hbusy
        cases hbusy
    | idle =>
        have hbehind : Phase.Path c .idle
            (before ++ .signalled :: behind) .idle := hsplit ▸ hpath
        refine reloadsIn_of_signalled hbehind hlistens ?_
        rw [← hsplit, ← hunread, hnone]

end Workload
end SecurityConsole
