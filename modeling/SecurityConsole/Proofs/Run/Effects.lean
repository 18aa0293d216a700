/-
What a single happening does to the session, to the notices, and to the
locations visited.

Acts touch the session by one of its four changes (`Act.onto`), and never
show a notice. Replies touch it only by ending it (`settle_session`). The
rest touches neither. So what becomes of the session along a trail is a
matter of these few changes (`Happening.onto`).
-/
import SecurityConsole.Proofs.Run.Trail
import SecurityConsole.Proofs.Transport.Refusal

namespace SecurityConsole

-- =================================================================== acts

/-- To listen changes nothing but the channel. -/
theorem Console.listen_eq (c : Console) :
    ∃ channel, c.listen = { c with channel := channel } := by
  unfold listen
  cases c.channel with
  | some channel => exact ⟨c.channel, rfl⟩
  | none => exact ⟨some .empty, rfl⟩

namespace Act

/-- The session after an act. -/
def onto (s : Session) : Act → Session
  | .establish token user => s.establish token user
  | .refreshUser token user => (s.refreshUser token user).2
  | .clear => s.clear.2
  | .expire token => (s.expire token).2
  | .brand _ | .title _ | .visit _ | .listen | .load => s

/-- The locations that an act visits. -/
def visited : Act → List String
  | .visit path => [path]
  | _ => []

/-- Acts touch the session by one of its changes, or not at all. -/
theorem apply_session (c : Console) (a : Act) :
    (a.apply c).2.session = a.onto c.session := by
  cases a with
  | listen =>
      obtain ⟨channel, h⟩ := c.listen_eq
      show c.listen.session = c.session
      rw [h]
  | _ => rfl

/-- No act shows a notice. -/
theorem apply_notices (c : Console) (a : Act) :
    (a.apply c).2.notices = c.notices := by
  cases a with
  | listen =>
      obtain ⟨channel, h⟩ := c.listen_eq
      show c.listen.notices = c.notices
      rw [h]
  | _ => rfl

/-- No act counts as a request. -/
theorem apply_tally (c : Console) (a : Act) :
    (a.apply c).2.tally = c.tally := by
  cases a with
  | listen =>
      obtain ⟨channel, h⟩ := c.listen_eq
      show c.listen.tally = c.tally
      rw [h]
  | _ => rfl

theorem apply_visits (c : Console) (a : Act) :
    (a.apply c).2.visits = c.visits ++ a.visited := by
  cases a with
  | visit path => rfl
  | listen =>
      obtain ⟨channel, h⟩ := c.listen_eq
      exact (congrArg Console.visits h).trans (List.append_nil _).symm
  | _ => exact (List.append_nil _).symm

end Act

-- ============================================================= happenings

namespace Happening

/-- Whether a happening ends a session because its token was refused. -/
def ends (c : Console) : Happening → Bool
  | .settled _ token reply => c.endsBy token reply
  | _ => false

/-- The session after a happening. -/
def onto (c : Console) (h : Happening) : Session :=
  match h with
  | .acted a => a.onto c.session
  | _ => if h.ends c then c.session.teardown else c.session

/-- The locations that a happening visits. -/
def visited (c : Console) (h : Happening) : List String :=
  match h with
  | .acted a => a.visited
  | _ => if h.ends c then [Route.loginPath] else []

/-- A signal that is received changes nothing but the channel. -/
theorem received_eq (c : Console) :
    ∃ channel, Happening.received.apply c = { c with channel := channel } := by
  unfold apply
  cases c.channel.bind Channel.receive? with
  | some channel => exact ⟨some channel, rfl⟩
  | none => exact ⟨c.channel, rfl⟩

/-- Only a reply ends a session. -/
theorem ends_cases {c : Console} {h : Happening} (hends : h.ends c = true) :
    ∃ call token reply,
      h = .settled call token reply ∧ c.endsBy token reply = true := by
  cases h with
  | settled call token reply => exact ⟨call, token, reply, rfl, hends⟩
  | acted a => cases hends
  | sent s => cases hends
  | signalled => cases hends
  | received => cases hends

/-- A happening does to the session what its act does, or ends it for a
reply that refuses the token. -/
theorem apply_session (c : Console) (h : Happening) :
    (h.apply c).session = h.onto c := by
  cases h with
  | acted a => exact a.apply_session c
  | sent s => rfl
  | settled call token reply => exact c.settle_session call token reply
  | signalled => rfl
  | received =>
      obtain ⟨channel, h⟩ := received_eq c
      rw [h]
      rfl

/-- It leads to where its act goes, or to the sign-in page if it ended
the session. -/
theorem apply_visits (c : Console) (h : Happening) :
    (h.apply c).visits = c.visits ++ h.visited c := by
  cases h with
  | acted a => exact a.apply_visits c
  | sent s => exact (List.append_nil _).symm
  | settled call token reply =>
      refine (c.settle_visits call token reply).trans ?_
      show _ = c.visits ++ if c.endsBy token reply then _ else _
      cases c.endsBy token reply with
      | true => rfl
      | false => exact (List.append_nil _).symm
  | signalled => exact (List.append_nil _).symm
  | received =>
      obtain ⟨channel, h⟩ := received_eq c
      exact (congrArg Console.visits h).trans (List.append_nil _).symm

end Happening
end SecurityConsole
