/-
Where the user of a session comes from, within one stretch of a job.

A stretch leaves the identity that it finds, or nobody, or a token with a
user that its own cause supplies: an act that was asked for, the grant in
the reply to a sign-in, or the user that the server names in reply to a
request that carries the token (`Supplies`). Every task keeps to this
(`Task.attributed`), and loads of the listener do not even supply anyone.
-/
import SecurityConsole.Proofs.Job.Tasks
import SecurityConsole.Proofs.Run.Effects
import SecurityConsole.Proofs.SignIn.Rules

namespace SecurityConsole

open Console (loginCall logoutCall currentUserCall)

-- ============================================================== lessening

/-- Whether a console keeps the identity of another, or has nobody's. -/
def Console.Lessens (c d : Console) : Prop :=
  d.session.identity = c.session.identity
    ∨ d.session.identity = Session.nobody

namespace Console.Lessens

theorem refl (c : Console) : Lessens c c := .inl rfl

/-- What is lost stays lost. -/
theorem trans {c d e : Console} (h : Lessens c d) (k : Lessens d e) :
    Lessens c e := by
  rcases k with k | k
  · rcases h with h | h
    · exact .inl (k.trans h)
    · exact .inr (k.trans h)
  · exact .inr k

/-- Settling a reply lessens. -/
theorem settle (c : Console) (call : Call) (token : Option String)
    (reply : Reply) : Lessens c (c.settle call token reply).2 := by
  unfold Lessens
  rw [settle_session]
  cases c.endsBy token reply with
  | true => exact .inr rfl
  | false => exact .inl rfl

/-- An act lessens if its change of the session does. -/
theorem act {c : Console} {a : Act}
    (h : (a.onto c.session).identity = c.session.identity
      ∨ (a.onto c.session).identity = Session.nobody) :
    Lessens c (a.apply c).2 := by
  unfold Lessens
  rw [a.apply_session]
  exact h

theorem clear (c : Console) : Lessens c (Act.clear.apply c).2 :=
  act (.inr rfl)

/-- Acts that do not touch the session of anyone else lessen. -/
theorem plain {a : Act} (ha : a.Plain) (c : Console) :
    Lessens c (a.apply c).2 := by
  cases a with
  | clear => exact clear c
  | title text => exact act (.inl rfl)
  | visit path => exact act (.inl rfl)
  | listen => exact act (.inl rfl)
  | load => exact act (.inl rfl)
  | _ => exact ha.elim

/-- An expiry leaves nobody, or everything. -/
theorem expire (c : Console) (token : String) :
    Lessens c ((Act.expire token).apply c).2 := by
  refine act ?_
  rcases Session.expire_cases c.session token with h | h
  · exact .inr (congrArg Session.identity h)
  · exact .inl (congrArg Session.identity h)

end Console.Lessens

-- ============================================================== tolerance

/-- What may be counted on whenever a job goes on: settling a reply brings
it about, and no loss of the session spoils it. -/
structure Tolerant (P : Cause → Console → Prop) : Prop where
  settled : ∀ (s : Sent) (reply : Reply) (d : Console),
    P (.replied (s.answered reply) d)
      (d.settle s.call s.request.token reply).2
  lessened : ∀ x c d, P x c → c.Lessens d → P x d

namespace Tolerant

variable {P : Cause → Console → Prop} {α : Type}

/-- Sending lessens the session at most, where calls are lost, and each
reply that is settled brings the property about again. -/
theorem calls (h : Tolerant P) {cs : List Call} {go : Answers cs → Job α}
    (hgo : ∀ as, (go as).Keeps P) : (Job.calls cs go).Keeps P :=
  Job.Keeps.calls
    (fun x c call hP => h.lessened x c _ hP (.settle c call _ _))
    h.settled hgo

theorem call (h : Tolerant P) (call : Call) : (Job.call call).Keeps P :=
  h.calls fun as => .done as.1

/-- An act that lessens the session at most spoils nothing. -/
theorem perform (h : Tolerant P) {a : Act}
    (ha : ∀ c : Console, c.Lessens (a.apply c).2) :
    (Job.perform a).Keeps P :=
  Job.Keeps.perform fun x c hP => h.lessened x c _ hP (ha c)

/-- Caching a branding leaves the session. -/
theorem loadBranding (h : Tolerant P) : Console.loadBranding.Keeps P :=
  (h.call _).bind fun _ =>
    (h.perform fun _ => .act (.inl rfl)).bind fun _ => .done ()

/-- What signing in and checking a token keep, every task keeps that does
not act on its own behalf. -/
theorem family (h : Tolerant P)
    (hlogin : ∀ creds, (Console.login creds).Keeps P)
    (hrevalidate : Console.revalidate.Keeps P) :
    Job.Family fun j => j.Keeps P where
  done := Job.Keeps.done
  bind := Job.Keeps.bind
  read := fun _ hgo x c hP => hgo c x c hP
  calls := h.calls
  act := fun ha hgo x c hP =>
    hgo _ x _ (h.lessened x c _ hP (Console.Lessens.plain ha c))
  loadBranding := h.loadBranding
  login := hlogin
  revalidate := hrevalidate

end Tolerant

-- ============================================================ attribution

/-- The cause of a stretch of a task supplies a token with its user. -/
inductive Supplies (t : Task) : Cause → String → SessionUser → Prop where
  | establish (c : Console) (token : String) (user : SessionUser)
      (ht : t = .perform (.establish token user)) :
      Supplies t (.begun c) token user
  | refresh (c : Console) (token : String) (user : SessionUser)
      (ht : t = .perform (.refreshUser token user))
      (hheld : c.session.token? = some token) :
      Supplies t (.begun c) token user
  /-- The grant in the reply to a sign-in. -/
  | grant (creds : Credentials) (request : Request) (reply : Reply)
      (c : Console) (v : (loginCall creds).answer.Value)
      (h : Verdict.ofReply (loginCall creds) reply = .answered v) :
      Supplies t (.replied ⟨loginCall creds, request, reply⟩ c)
        (Grant.ofValue v).token (Grant.ofValue v).user
  /-- The user that the server names in reply to a request with the token,
  provided that the token is still held. -/
  | vouch (request : Request) (reply : Reply) (c : Console)
      (token : String) (v : currentUserCall.answer.Value)
      (htoken : request.token = some token)
      (hheld : c.session.token? = some token)
      (h : Verdict.ofReply currentUserCall reply = .answered v) :
      Supplies t (.replied ⟨currentUserCall, request, reply⟩ c) token
        (SessionUser.ofValue v)

/-- The identity of a console is the one found, or nobody's, or it is
supplied by the cause. -/
def Attributed (t : Task) (x : Cause) (c : Console) : Prop :=
  x.found.Lessens c ∨ ∃ token user,
    c.session.identity = ⟨some token, some user⟩ ∧ Supplies t x token user

/-- Attribution is tolerant: a reply that is settled lessens what it
finds, and whoever is lessened was attributed, or is nobody. -/
theorem Attributed.tolerant (t : Task) : Tolerant (Attributed t) where
  settled := fun s reply d => .inl (.settle d s.call s.request.token reply)
  lessened := by
    intro x c d h hd
    rcases h with h | ⟨token, user, hid, hs⟩
    · exact .inl (h.trans hd)
    · rcases hd with hd | hd
      · exact .inr ⟨token, user, hd.trans hid, hs⟩
      · exact .inl (.inr hd)

namespace Attributed

variable {t : Task} {x : Cause} {c : Console}

theorem begun (t : Task) (c : Console) : Attributed t (.begun c) c :=
  .inl (.refl c)

/-- An answer leaves the session. -/
theorem settle_answered_session {call : Call} {reply : Reply}
    {v : call.answer.Value} (d : Console) (token : Option String)
    (h : Verdict.ofReply call reply = .answered v) :
    (d.settle call token reply).2.session = d.session := by
  rw [Console.settle_of_answered d h]
  rfl

/-- Signing in supplies the one of the grant. -/
theorem login (t : Task) (creds : Credentials) :
    (Console.login creds).Keeps (Attributed t) := by
  intro x c hP
  have htol := Attributed.tolerant t
  refine Console.login_ensures (fun _ => hP) (fun _ _ => hP) ?_ ?_ ?_
  · intro request reply d v _ _ hv
    exact .inr ⟨_, _, rfl, .grant creds request reply d v hv⟩
  · intro request reply d e _ _ _
    exact .inl (.settle d _ _ _)
  · intro _
    exact htol.lessened x c _ hP (.settle c _ _ _)

/-- Checking a token supplies at most the user that the server names. -/
theorem revalidate (t : Task) : Console.revalidate.Keeps (Attributed t) := by
  intro x c hP
  have htol := Attributed.tolerant t
  refine Console.revalidate_ensures (fun _ => hP) (fun _ _ => hP) ?_ ?_ ?_
  · intro token request reply d v htoken hr _ hv
    have hsession := settle_answered_session d request.token hv
    have happly := Act.apply_session
      (d.settle currentUserCall request.token reply).2
      (.refreshUser token (SessionUser.ofValue v))
    rw [hsession] at happly
    by_cases hheld : d.session.token? = some token
    · refine .inr ⟨token, SessionUser.ofValue v, ?_, ?_⟩
      · rw [happly]
        exact Session.refreshUser_of_holds hheld
      · have hcarried : request.token = some token :=
          (Console.request?_token hr).trans htoken
        exact .vouch request reply d token v hcarried hheld hv
    · refine .inl (.inl ?_)
      rw [happly]
      exact congrArg Session.identity
        (Session.refreshUser_of_not_holds hheld)
  · intro token request reply d _ _ _
    exact .inl ((Console.Lessens.settle d _ _ _).trans (.expire _ token))
  · intro token _ _
    exact htol.lessened x c _ hP
      ((Console.Lessens.settle c _ _ _).trans (.expire _ token))

/-- An act that is asked for changes the session on its own behalf. -/
theorem perform (a : Act) (c : Console) :
    Attributed (.perform a) (.begun c) (a.apply c).2 := by
  cases a with
  | establish token user =>
      exact .inr ⟨token, user, rfl, .establish c token user rfl⟩
  | refreshUser token user =>
      by_cases hheld : c.session.token? = some token
      · refine .inr ⟨token, user, ?_, .refresh c token user rfl hheld⟩
        exact Session.refreshUser_of_holds hheld
      · refine .inl (.inl ?_)
        exact congrArg Session.identity
          (Session.refreshUser_of_not_holds hheld)
  | clear => exact .inl (.clear c)
  | expire token => exact .inl (.expire c token)
  | brand config => exact .inl (.act (.inl rfl))
  | title text => exact .inl (.act (.inl rfl))
  | visit path => exact .inl (.act (.inl rfl))
  | listen => exact .inl (.act (.inl rfl))
  | load => exact .inl (.act (.inl rfl))

end Attributed

/-- Every stretch of every task accounts for the identity that it leaves. -/
theorem Task.attributed (t : Task) (c : Console) :
    t.job.Ensures Anyhow (Attributed t) (fun x c _ => Attributed t x c)
      (.begun c) c := by
  by_cases hact : ∃ a, t = .perform a
  · obtain ⟨a, rfl⟩ := hact
    exact Attributed.perform a c
  · have hfamily := (Attributed.tolerant t).family (Attributed.login t)
      (Attributed.revalidate t)
    exact hfamily.task t (fun a ha => hact ⟨a, ha⟩) _ c
      (Attributed.begun t c)

/-- Loads leave the identity that they find, or nobody. -/
theorem Cause.lessening :
    Tolerant fun x c => x.found.Lessens c where
  settled := fun s reply d => .settle d s.call s.request.token reply
  lessened := fun _ _ _ h hd => h.trans hd

end SecurityConsole
