/-
Signals on their way to the one who listens to them. The channel keeps
the latest sixteen. When signals are lost, the listener is told so once,
and then goes on with the oldest one that was kept.
-/

namespace SecurityConsole

/-- Signals that were sent and not yet received. -/
structure Channel where
  /-- The signals kept. -/
  waiting : Nat
  /-- Whether signals were lost since the listener was last told. -/
  lagged : Bool
  deriving DecidableEq, Repr, Inhabited

namespace Channel

/-- The number of signals that are kept. -/
def capacity : Nat := 16

/-- A channel without signals. -/
def empty : Channel := ⟨0, false⟩

/-- Send a signal. Behind sixteen others it pushes out the oldest. -/
def send (c : Channel) : Channel :=
  if c.waiting < capacity then { c with waiting := c.waiting + 1 }
  else { c with lagged := true }

/-- What the listener receives next, if there is anything: word of lost
signals first, then the signals. -/
def receive? (c : Channel) : Option Channel :=
  if c.lagged then some { c with lagged := false }
  else if 0 < c.waiting then some { c with waiting := c.waiting - 1 }
  else none

/-- How often the listener will receive something. -/
def backlog (c : Channel) : Nat := c.waiting + c.lagged.toNat

-- ================================================================== laws

/-- Receiving shortens the backlog by one. -/
theorem backlog_receive? {c d : Channel} (h : c.receive? = some d) :
    c.backlog = d.backlog + 1 := by
  unfold receive? at h
  split at h
  · cases h
    simp_all [backlog]
  · split at h
    · cases h
      simp [backlog]
      omega
    · cases h

/-- Nothing is received just when there is no backlog. -/
theorem receive?_eq_none_iff {c : Channel} :
    c.receive? = none ↔ c.backlog = 0 := by
  obtain ⟨w, l⟩ := c
  cases l <;> cases w <;> simp [receive?, backlog]

/-- Sending adds one to a backlog of a channel with room. -/
theorem backlog_send {c : Channel} (h : c.waiting < capacity) :
    c.send.backlog = c.backlog + 1 := by
  simp [send, h, backlog]
  omega

end Channel
end SecurityConsole
