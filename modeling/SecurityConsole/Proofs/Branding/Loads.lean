/-
Who changes the branding that is cached.

Only loads do, apart from acts that are asked for: a load sends the call
for the branding, and caches what the reply says as soon as it comes
(`Job.Loads`). So a stretch of a job leaves the branding as it was, or
what the reply says that it began with, or the default, if a load could
not even be sent (`LostIn`): see `Job.Loads.advance` and
`Paused.Loads.deliver`. The listener does nothing but such loads, and its
load is known in full (`loadBranding_of_some`, `loading_deliver`).
-/
import SecurityConsole.Proofs.Job.Tasks
import SecurityConsole.Proofs.Run.Effects
import SecurityConsole.Proofs.Run.History

namespace SecurityConsole

open Console (brandingCall brandingOf loadBranding)

-- ================================================================ replies

/-- The branding that a reply brings: the default, unless it answers. -/
def brandingSaid (reply : Reply) : SiteConfig :=
  match Verdict.ofReply brandingCall reply with
  | .answered value => SiteConfig.ofValue value
  | .failed .. | .refused _ => .default

namespace Console

/-- What a call for the branding is answered with is decided by the
reply alone. Every failure, a refusal too, makes the default of it. -/
theorem settle_branding (c : Console) (token : Option String)
    (reply : Reply) :
    brandingOf (c.settle brandingCall token reply).1
      = brandingSaid reply := by
  unfold settle conclude brandingSaid
  cases Verdict.ofReply brandingCall reply with
  | answered value => rfl
  | failed error text => rfl
  | refused message => cases token <;> rfl

/-- Ending a session leaves the branding, the channel and the head of the
page. -/
theorem endSession_keeps (c : Console) (token : String) :
    (c.endSession token).site = c.site
      ∧ (c.endSession token).channel = c.channel
      ∧ (c.endSession token).head = c.head := by
  unfold endSession Session.expire
  cases c.session.holds token <;> exact ⟨rfl, rfl, rfl⟩

/-- So does settling a reply: what it says of the branding is cached by an
act of its own. -/
theorem settle_keeps (c : Console) (call : Call) (token : Option String)
    (reply : Reply) :
    (c.settle call token reply).2.site = c.site
      ∧ (c.settle call token reply).2.channel = c.channel
      ∧ (c.settle call token reply).2.head = c.head := by
  unfold settle conclude
  cases Verdict.ofReply call reply with
  | answered value => exact ⟨rfl, rfl, rfl⟩
  | failed error text => exact ⟨rfl, rfl, rfl⟩
  | refused message =>
      cases token with
      | none => exact ⟨rfl, rfl, rfl⟩
      | some token => exact c.endSession_keeps token

end Console

/-- Of all acts, only caching a branding changes the one that is
cached. -/
theorem Act.apply_site {a : Act} (ha : ∀ config, a ≠ .brand config)
    (c : Console) : (a.apply c).2.site = c.site := by
  cases a with
  | brand config => exact absurd rfl (ha config)
  | listen =>
      obtain ⟨channel, h⟩ := c.listen_eq
      show c.listen.site = c.site
      rw [h]
  | _ => rfl

/-- An act leaves the channel of a listener. -/
theorem Act.apply_channel {c : Console} {channel : Channel}
    (h : c.channel = some channel) (a : Act) :
    (a.apply c).2.channel = some channel := by
  cases a with
  | listen =>
      show c.listen.channel = _
      unfold Console.listen
      rw [h]
      exact h
  | _ => exact h

-- =================================================================== lost

/-- On the way that happenings lead from a console, a load of the branding
could not be sent: its request cannot be written at that point. -/
def LostIn (c : Console) (hs : List Happening) : Prop :=
  ∃ before behind token,
    hs = before ++ .settled brandingCall token .lost :: behind
      ∧ (replay c before).request? brandingCall = none

namespace LostIn

variable {c : Console} {hs : List Happening}

/-- What happens later does not find a load that was lost. -/
theorem more (h : LostIn c hs) (ks : List Happening) :
    LostIn c (hs ++ ks) := by
  obtain ⟨before, behind, token, rfl, hr⟩ := h
  exact ⟨before, behind ++ ks, token, by rw [List.append_assoc]; rfl, hr⟩

/-- A load that was lost behind other happenings. -/
theorem later {ks : List Happening} (h : LostIn (replay c hs) ks) :
    LostIn c (hs ++ ks) := by
  obtain ⟨before, behind, token, rfl, hr⟩ := h
  refine ⟨hs ++ before, behind, token, by rw [List.append_assoc], ?_⟩
  rw [replay_append]
  exact hr

/-- A load that was lost behind one happening. -/
theorem cons {x : Happening} (h : LostIn (x.apply c) hs) :
    LostIn c (x :: hs) := by
  obtain ⟨before, behind, token, rfl, hr⟩ := h
  exact ⟨x :: before, behind, token, rfl, hr⟩

end LostIn

/-- The branding of a console that happenings have led to is the one from
before, or the default because a load was lost. -/
def SiteKept (c : Console) (hs : List Happening) (d : Console) : Prop :=
  d.site = c.site ∨ (d.site = .default ∧ LostIn c hs)

/-- Two stretches: if the second kept what it found, the first decides;
else a load was lost in the second, and so on the whole way. -/
theorem SiteKept.trans {c d e : Console} {hs ks : List Happening}
    (h : SiteKept c hs d) (hd : d = replay c hs) (k : SiteKept d ks e) :
    SiteKept c (hs ++ ks) e := by
  rcases k with k | ⟨hsite, hlost⟩
  · rcases h with h | ⟨hsite, hlost⟩
    · exact .inl (k.trans h)
    · exact .inr ⟨k.trans hsite, hlost.more ks⟩
  · exact .inr ⟨hsite, LostIn.later (hd ▸ hlost)⟩

-- ================================================================== loads

section
variable {α : Type}

/-- The call for the branding, on its way. -/
def awaited (number : Nat) (request : Request) : Slots [brandingCall] :=
  (.pending number request, ())

/-- What follows the answer to the call: it is cached, and the job goes
on. -/
def thenCached (go : Answers [brandingCall] → Job α)
    (as : Answers [brandingCall]) : Job α :=
  .act (.brand (brandingOf as.1)) fun _ => go as

/-- The console that has cached the reply to the call. -/
def Console.cached (c : Console) (token : Option String) (reply : Reply) :
    Console :=
  (c.settle brandingCall token reply).2.brand
    (brandingOf (c.settle brandingCall token reply).1)

/-- What happens until the reply is cached. -/
def cachedTrail (c : Console) (token : Option String) (reply : Reply) :
    List Happening :=
  [.settled brandingCall token reply,
    .acted (.brand (brandingOf (c.settle brandingCall token reply).1))]

variable {c : Console} {k : Answers [brandingCall] → Job α}

/-- A load that is sent waits for its reply. -/
theorem load_of_some {request : Request}
    (h : c.request? brandingCall = some request) (next : Nat) :
    (Job.calls [brandingCall] (thenCached k)).advance next c
        = (.waiting (awaited next request) (thenCached k), c)
      ∧ (Job.calls [brandingCall] (thenCached k)).trail next c
        = [.sent ⟨next, brandingCall, request⟩] :=
  ⟨Job.advance_call_of_some h, Job.trail_call_of_some h⟩

/-- A load that cannot be sent is lost at once. -/
theorem load_of_none (h : c.request? brandingCall = none) (next : Nat) :
    ∃ as, (Job.calls [brandingCall] (thenCached k)).advance next c
        = (k as).advance next (c.cached c.session.token? .lost)
      ∧ (Job.calls [brandingCall] (thenCached k)).trail next c
        = cachedTrail c c.session.token? .lost
          ++ (k as).trail next (c.cached c.session.token? .lost) := by
  let lost := c.settle brandingCall c.session.token? .lost
  exact ⟨(lost.1, ()), Job.advance_call_of_none h,
    Job.trail_call_of_none h⟩

/-- A load that is handed its reply caches it. -/
theorem load_deliver (next n : Nat) (request : Request) (reply : Reply)
    (c : Console) :
    ∃ as, (Paused.waiting (awaited n request) (thenCached k)).deliver next
          n reply c
        = (k as).advance next (c.cached request.token reply)
      ∧ (Paused.waiting (awaited n request) (thenCached k)).deliverTrail
          next n reply c
        = cachedTrail c request.token reply
          ++ (k as).trail next (c.cached request.token reply) := by
  let settled := c.settle brandingCall request.token reply
  have hslots : (awaited n request).deliver n reply c
      = ((.settled settled.1, ()), settled.2) := by
    simp only [awaited, Slots.deliver, if_true]
    rfl
  have hsome : ((awaited n request).deliver n reply c).1.answers?
      = some (settled.1, ()) := by
    rw [hslots]
    rfl
  have htrail : (awaited n request).deliverTrail n reply
      = [.settled brandingCall request.token reply] := by
    simp only [awaited, Slots.deliverTrail, if_true]
  refine ⟨(settled.1, ()), ?_, ?_⟩
  · rw [Paused.deliver_of_some hsome, hslots]
    rfl
  · simp only [Paused.deliverTrail, hsome, htrail]
    rw [hslots]
    rfl

/-- What is cached then is what the reply says. -/
theorem cached_site (c : Console) (token : Option String) (reply : Reply) :
    (c.cached token reply).site = brandingSaid reply :=
  c.settle_branding token reply

end

-- =================================================================== jobs

/-- A job that changes the branding by loading it, and in no other way. -/
inductive Job.Loads {α : Type} : Job α → Prop where
  | done (result : α) : Loads (.done result)
  | read {go : Console → Job α} (h : ∀ c, Loads (go c)) : Loads (.read go)
  | act {a : Act} {go : Bool → Job α} (ha : ∀ config, a ≠ .brand config)
      (h : ∀ b, Loads (go b)) : Loads (.act a go)
  | calls {cs : List Call} {go : Answers cs → Job α}
      (h : ∀ as, Loads (go as)) : Loads (.calls cs go)
  | load {go : Answers [brandingCall] → Job α} (h : ∀ as, Loads (go as)) :
      Loads (.calls [brandingCall] (thenCached go))

/-- A job that waits: in between, or for the branding. -/
inductive Paused.Loads {α : Type} : Paused α → Prop where
  | ended (result : α) : Loads (.ended result)
  | waiting {cs : List Call} {slots : Slots cs} {go : Answers cs → Job α}
      (h : ∀ as, (go as).Loads) : Loads (.waiting slots go)
  | loading (number : Nat) (request : Request)
      {go : Answers [brandingCall] → Job α} (h : ∀ as, (go as).Loads) :
      Loads (.waiting (awaited number request) (thenCached go))

namespace Job.Loads

variable {α β : Type}

/-- A job behind one that only loads loads only, if it does so for every
result. -/
theorem bind {f : α → Job β} {j : Job α} (h : j.Loads)
    (hf : ∀ r, (f r).Loads) : (j.bind f).Loads := by
  induction h with
  | done result => exact hf result
  | read _ ih => exact .read ih
  | act ha _ ih => exact .act ha ih
  | calls _ ih => exact .calls ih
  | load _ ih => exact .load ih

/-- An act that caches nothing is no load, and may be done. -/
theorem perform {a : Act} (ha : ∀ config, a ≠ .brand config) :
    (Job.perform a).Loads := .act ha fun b => .done b

/-- A call by itself caches nothing. -/
theorem call (call : Call) : (Job.call call).Loads :=
  .calls fun as => .done as.1

/-- The load of the branding is the one load there is. -/
theorem loadBranding : loadBranding.Loads := .load fun _ => .done ()

/-- Signing in caches nothing: it establishes a session at most. -/
theorem login (creds : Credentials) : (Console.login creds).Loads := by
  unfold Console.login
  cases creds.violations with
  | cons v vs => exact .done _
  | nil =>
      refine bind (call _) fun outcome => ?_
      cases outcome with
      | ok value => exact bind (perform nofun) fun _ => .done _
      | error e => exact .done _

/-- Checking a token caches nothing: it refreshes the user or ends the
session. -/
theorem revalidate : Console.revalidate.Loads := by
  refine bind (.read fun c => .done c.session.token?) fun token => ?_
  cases token with
  | none => exact .done ()
  | some token =>
      refine bind (call _) fun outcome => ?_
      cases outcome with
      | ok value => exact bind (perform nofun) fun _ => .done ()
      | error e => exact bind (perform nofun) fun _ => .done ()

/-- Jobs that only load are a family. -/
theorem family : Job.Family @Job.Loads where
  done := .done
  bind := bind
  read := fun _ h => .read h
  calls := .calls
  act := fun ha h => .act (by rintro config rfl; exact ha) h
  loadBranding := loadBranding
  login := login
  revalidate := revalidate

end Job.Loads

/-- Every task changes the branding by loads only, unless it is the bare
act of caching one. -/
theorem Task.loads {t : Task}
    (ht : ∀ config, t ≠ .perform (.brand config)) : t.job.Loads := by
  by_cases hact : ∃ a, t = .perform a
  · obtain ⟨a, rfl⟩ := hact
    exact .act (fun config ha => ht config (ha ▸ rfl)) fun _ => .done _
  · exact Job.Loads.family.task t fun a ha => hact ⟨a, ha⟩

-- ================================================================ sending

namespace Slots

/-- Sending leaves the branding, also where calls are lost on the
way. -/
theorem send_site (cs : List Call) (next : Nat) (c : Console) :
    (send next c cs).2.site = c.site :=
  send_induction (P := fun d => d.site = c.site)
    (fun d call h => (d.settle_keeps call _ _).1.trans h) cs next c rfl

/-- Settling a slot leaves the branding. What was waited for is cached
only where the job goes on. -/
theorem deliver_site (number : Nat) (reply : Reply) (c : Console) :
    ∀ {cs : List Call} (slots : Slots cs),
      (slots.deliver number reply c).2.site = c.site := by
  intro cs
  induction cs with
  | nil => intro slots; rfl
  | cons call rest ih =>
      rintro ⟨slot, slots⟩
      cases slot with
      | settled outcome => exact ih slots
      | pending n request =>
          by_cases h : n = number
          · simp only [deliver, h, if_true]
            exact (c.settle_keeps call request.token reply).1
          · simp only [deliver, h, if_false]
            exact ih slots

end Slots

-- ============================================================== stretches

namespace Job.Loads

variable {α : Type}

/-- A stretch of a job that was begun, or goes on behind its answers. -/
theorem advance {j : Job α} (h : j.Loads) (next : Nat) : ∀ c : Console,
    (j.advance next c).1.Loads
      ∧ SiteKept c (j.trail next c) (j.advance next c).2 := by
  induction h with
  | done result => intro c; exact ⟨.ended result, .inl rfl⟩
  | read _ ih => intro c; exact ih c c
  | @act a go ha _ ih =>
      intro c
      obtain ⟨hloads, hsite⟩ := ih (a.apply c).1 (a.apply c).2
      refine ⟨hloads, ?_⟩
      have hact : SiteKept c [.acted a] (a.apply c).2 :=
        .inl (a.apply_site ha c)
      exact hact.trans rfl hsite
  | @calls cs go h ih =>
      intro c
      have hsent : SiteKept c (Slots.sendTrail next c cs)
          (Slots.send next c cs).2 := .inl (Slots.send_site cs next c)
      cases has : (Slots.send next c cs).1.answers? with
      | some as =>
          obtain ⟨hloads, hsite⟩ := ih as (Slots.send next c cs).2
          rw [advance_calls_of_some has]
          simp only [trail, has]
          exact ⟨hloads, hsent.trans (Slots.send_replay cs next c) hsite⟩
      | none =>
          rw [advance_calls_of_none has]
          simp only [trail, has, List.append_nil]
          exact ⟨.waiting h, hsent⟩
  -- the load waits for its reply, or is lost before it was sent
  | @load go h ih =>
      intro c
      cases hr : c.request? brandingCall with
      | some request =>
          obtain ⟨hsent, htrail⟩ := load_of_some (k := go) hr next
          rw [hsent, htrail]
          exact ⟨.loading next request h, .inl rfl⟩
      | none =>
          obtain ⟨as, hlost, htrail⟩ := load_of_none (k := go) hr next
          obtain ⟨hloads, hsite⟩ := ih as (c.cached c.session.token? .lost)
          rw [hlost, htrail]
          refine ⟨hloads, SiteKept.trans (.inr ⟨?_, ?_⟩) rfl hsite⟩
          · exact cached_site c c.session.token? .lost
          · exact ⟨[], _, _, rfl, hr⟩

end Job.Loads

namespace Paused.Loads

variable {α : Type}

/-- What a stretch that begins with a reply does to the branding: the
reply was to a load, and brings it; or it is kept, or lost. -/
inductive SiteAfter (p : Paused α) (number : Nat) (reply : Reply)
    (c : Console) (hs : List Happening) (d : Console) : Prop where
  | kept (h : SiteKept c hs d)
  | brought (s : Sent) (hs : s ∈ p.outstanding) (hn : s.number = number)
      (hcall : s.call = brandingCall) (h : d.site = brandingSaid reply)

/-- A stretch that begins with a reply. A reply to a load is cached at
once; behind it the job may run into a load that cannot be sent, and
then the default is cached over it. -/
theorem deliver {p : Paused α} (h : p.Loads) (next number : Nat)
    (reply : Reply) (c : Console) :
    (p.deliver next number reply c).1.Loads
      ∧ SiteAfter p number reply c (p.deliverTrail next number reply c)
        (p.deliver next number reply c).2 := by
  cases h with
  | ended result => exact ⟨.ended result, .kept (.inl rfl)⟩
  | @waiting cs slots go h =>
      have hsettled : SiteKept c (slots.deliverTrail number reply)
          (slots.deliver number reply c).2 :=
        .inl (slots.deliver_site number reply c)
      cases has : (slots.deliver number reply c).1.answers? with
      | some as =>
          obtain ⟨hloads, hsite⟩ :=
            (h as).advance next (slots.deliver number reply c).2
          rw [deliver_of_some has]
          simp only [deliverTrail, has]
          exact ⟨hloads, .kept (hsettled.trans
            (slots.deliver_replay number reply c) hsite)⟩
      | none =>
          rw [deliver_of_none has]
          simp only [deliverTrail, has, List.append_nil]
          exact ⟨.waiting h, .kept hsettled⟩
  | @loading n request go h =>
      by_cases hn : n = number
      -- the reply is to this load: it is cached, unless the job loses
      -- another load right behind it
      · subst hn
        obtain ⟨as, hgo, htrail⟩ := load_deliver (k := go) next n request
          reply c
        obtain ⟨hloads, hsite⟩ :=
          (h as).advance next (c.cached request.token reply)
        rw [hgo, htrail]
        refine ⟨hloads, ?_⟩
        rcases hsite with hkept | ⟨hdefault, hlost⟩
        · refine .brought ⟨n, brandingCall, request⟩
            List.mem_cons_self rfl rfl ?_
          exact hkept.trans (cached_site c request.token reply)
        · exact .kept (.inr ⟨hdefault, LostIn.later hlost⟩)
      -- the reply has another number and passes by
      · have hslots : (awaited n request).deliver number reply c
            = (awaited n request, c) := by
          simp only [awaited, Slots.deliver, hn, if_false]
        have hnone : ((awaited n request).deliver number reply c).1.answers?
            = none := by
          rw [hslots]
          rfl
        rw [deliver_of_none hnone, hslots]
        exact ⟨.loading n request h, .kept (.inl rfl)⟩

end Paused.Loads

-- =============================================================== channels

section
variable {c : Console} {channel : Channel}

/-- Sending leaves the channel. -/
theorem Slots.send_channel (h : c.channel = some channel) (cs : List Call)
    (next : Nat) : (send next c cs).2.channel = some channel :=
  send_induction (P := fun d => d.channel = some channel)
    (fun d call hd => (d.settle_keeps call _ _).2.1.trans hd) cs next c h

/-- Settling a slot leaves the channel. -/
theorem Slots.deliver_channel (h : c.channel = some channel)
    (number : Nat) (reply : Reply) :
    ∀ {cs : List Call} (slots : Slots cs),
      (slots.deliver number reply c).2.channel = some channel := by
  intro cs
  induction cs with
  | nil => intro slots; exact h
  | cons call rest ih =>
      rintro ⟨slot, slots⟩
      cases slot with
      | settled outcome => exact ih slots
      | pending n request =>
          by_cases hn : n = number
          · simp only [deliver, hn, if_true]
            exact (c.settle_keeps call request.token reply).2.1.trans h
          · simp only [deliver, hn, if_false]
            exact ih slots

/-- Jobs neither send signals nor receive them. -/
theorem Job.advance_channel {α : Type} (next : Nat) (j : Job α) :
    ∀ {c : Console}, c.channel = some channel →
      (j.advance next c).2.channel = some channel := by
  induction j with
  | done result => intro c h; exact h
  | read go ih => intro c h; exact ih c h
  | act a go ih => intro c h; exact ih _ (Act.apply_channel h a)
  | calls cs go ih =>
      intro c h
      have hsent := Slots.send_channel h cs next
      cases has : (Slots.send next c cs).1.answers? with
      | some as =>
          rw [advance_calls_of_some has]
          exact ih as hsent
      | none =>
          rw [advance_calls_of_none has]
          exact hsent

/-- Nor does a job that is handed a reply send signals or receive
them. -/
theorem Paused.deliver_channel {α : Type} (h : c.channel = some channel)
    (next number : Nat) (reply : Reply) (p : Paused α) :
    (p.deliver next number reply c).2.channel = some channel := by
  cases p with
  | ended result => exact h
  | waiting slots go =>
      have hsettled := Slots.deliver_channel h number reply slots
      cases has : (slots.deliver number reply c).1.answers? with
      | some as =>
          rw [deliver_of_some has]
          exact Job.advance_channel next (go as) hsettled
      | none =>
          rw [deliver_of_none has]
          exact hsettled

end

-- ================================================== the listener's load

/-- A load of the listener that waits for the reply. -/
def loading (number : Nat) (request : Request) : Paused Unit :=
  .waiting (awaited number request) (thenCached fun _ => .done ())

/-- The load of the listener sends the call and caches what is answered;
nothing is behind it. -/
theorem loadBranding_eq :
    loadBranding = .calls [brandingCall] (thenCached fun _ => .done ()) :=
  rfl

/-- It waits for the number it was sent with, and for no other. -/
theorem loading_awaits {n number : Nat} {request : Request} :
    (loading n request).awaits number = true ↔ n = number := by
  rw [Paused.awaits_iff]
  constructor
  · rintro ⟨s, hs, rfl⟩
    rw [List.mem_singleton.1 hs]
  · rintro rfl
    exact ⟨⟨n, brandingCall, request⟩, List.mem_cons_self, rfl⟩

/-- Its reply ends it, and is what is cached then. -/
theorem loading_deliver (next n : Nat) (request : Request) (reply : Reply)
    (c : Console) :
    (loading n request).deliver next n reply c
      = (.ended (), c.cached request.token reply) := by
  obtain ⟨as, hgo, -⟩ := load_deliver (k := fun _ => .done ()) next n
    request reply c
  exact hgo

/-- Where its request can be written, it is sent, and the load waits. -/
theorem loadBranding_of_some {c : Console} {request : Request}
    (h : c.request? brandingCall = some request) (next : Nat) :
    loadBranding.advance next c = (loading next request, c)
      ∧ loadBranding.trail next c
        = [.sent ⟨next, brandingCall, request⟩] := by
  rw [loadBranding_eq]
  exact load_of_some h next

/-- Where its request cannot be written, it is lost at once, and the
default is cached. -/
theorem loadBranding_of_none {c : Console}
    (h : c.request? brandingCall = none) (next : Nat) :
    loadBranding.advance next c
        = (.ended (), c.cached c.session.token? .lost)
      ∧ LostIn c (loadBranding.trail next c) := by
  obtain ⟨as, hlost, htrail⟩ := load_of_none (k := fun _ => .done ()) h next
  rw [loadBranding_eq, hlost, htrail]
  exact ⟨rfl, [], _, _, rfl, h⟩

end SecurityConsole
