/-
Replies that are settled one after the other.

What a reply adds to a console is a matter of the reply, of the token that
its call was sent with, and of whether this token is still held. Only the
last looks at the console, and the first reply that refuses the token held
is the only one to find it held. So it matters which replies were settled
and not in which order: the session, the visits, the notices as a whole and
the counters behind them can be told from the replies alone (`Settles`).
The relation holds of one reply (`Settles.one`), of replies behind replies
(`Settles.trans`), and so of all (`settledAll_settles`); it does not tell
orders apart (`Settles.of_perm`), and fixes the console up to the order of
notices and of counters (`Settles.sameInSum`).
-/
import SecurityConsole.Proofs.Run.Accounting
import SecurityConsole.Proofs.Run.Expiry

namespace SecurityConsole

-- ============================================================ settlements

/-- How a call ends that was sent with a token, or without one; it does
not matter in which console it is settled (`Console.settle_outcome`). -/
def Call.outcome (call : Call) (token : Option String) (reply : Reply) :
    call.Outcome :=
  (Console.settle default call token reply).1

/-- A call, the token that it was sent with, and the reply that settles
it. -/
structure Settlement where
  call : Call
  token : Option String
  reply : Reply

namespace Settlement

/-- What the call is counted under. -/
def key (x : Settlement) : Method × OutcomeLabel :=
  (x.call.method, OutcomeLabel.of (x.call.outcome x.token x.reply))

/-- The error that is told of the call, if there is one. A token that was
refused is not told as an error. -/
def told? (x : Settlement) : Option Notice :=
  match Verdict.ofReply x.call x.reply, x.token with
  | .answered _, _ => none
  | .failed _ text, _ => some ⟨.error, text⟩
  | .refused _, some _ => none
  | .refused message, none =>
    some ⟨.error, message.getD Notice.invalidCredentials⟩

/-- What a settled reply tells by itself is an error; the warning of a
session that ends comes from elsewhere. -/
theorem told?_isError {x : Settlement} {n : Notice} (h : x.told? = some n) :
    n.level = .error := by
  unfold told? at h
  split at h <;> cases h <;> rfl

/-- Whether settling ends the session of a console. -/
def ends (c : Console) (x : Settlement) : Bool := c.endsBy x.token x.reply

/-- Who holds no token has no session that could end. -/
theorem ends_of_signedOut {c : Console} (h : c.session.token? = none)
    (x : Settlement) : x.ends c = false := by
  unfold ends Console.endsBy
  cases x.token with
  | none => exact Bool.and_false _
  | some t =>
      have hno : c.session.holds t = false :=
        Session.not_holds_iff.2 (by rw [h]; exact nofun)
      rw [Option.any_some, hno, Bool.and_false]

/-- Whether a session ends is a matter of the session. -/
theorem ends_congr {c d : Console} (h : d.session = c.session)
    (x : Settlement) : x.ends d = x.ends c := by
  unfold ends Console.endsBy
  rw [h]

end Settlement

namespace Console

/-- The console once a reply is settled. -/
def settled (c : Console) (x : Settlement) : Console :=
  (c.settle x.call x.token x.reply).2

/-- The console once replies are settled, one after the other. -/
def settledAll (c : Console) (xs : List Settlement) : Console :=
  xs.foldl settled c

/-- Whether one of some replies refuses the token that the console
holds. -/
def expiresBy (c : Console) (xs : List Settlement) : Bool :=
  xs.any (·.ends c)

/-- A reply that does not end the session only tells its error, and
counts. -/
theorem settled_of_not_ends {c : Console} {x : Settlement}
    (h : x.ends c = false) :
    c.settled x
      = { c with
          notices := c.notices ++ x.told?.toList
          tally := c.tally.bump x.key } := by
  have hkey : (c.settled x).tally = c.tally.bump x.key := by
    rw [settled, settle_tally, settle_outcome c default]
    rfl
  obtain ⟨told, label, -, hc⟩ := settle_of_not_endsBy x.call h
  have htold : c.notices ++ told = c.notices ++ x.told?.toList := by
    have hnotices : (c.settled x).notices = c.notices ++ told := by
      rw [settled, hc]
      rfl
    rw [← hnotices, settled, Settlement.told?]
    cases hv : Verdict.ofReply x.call x.reply with
    | answered v =>
        rw [settle_of_answered c hv]
        exact (List.append_nil _).symm
    | failed e text =>
        rw [settle_of_failed c hv]
        rfl
    | refused m =>
        cases htoken : x.token with
        | none =>
            rw [settle_of_refused_bare c hv]
            rfl
        | some t =>
            -- a token was refused, but it is not the one that is held
            have hno : c.session.token? ≠ some t := by
              unfold Settlement.ends at h
              rw [endsBy_of_refuses c (Verdict.refuses_of_refused hv),
                htoken] at h
              exact Session.not_holds_iff.1 h
            rw [settle_of_refused_token c hv, endSession_of_not_holds hno]
            exact (List.append_nil _).symm
  have hsettled : c.settled x
      = { c with notices := c.notices ++ told }.counted x.call.method label :=
    hc
  rw [hsettled] at hkey ⊢
  rw [← hkey, htold]
  rfl

/-- A reply that ends the session tells no error. -/
theorem told?_of_ends {c : Console} {x : Settlement}
    (h : x.ends c = true) : x.told? = none := by
  unfold Settlement.ends endsBy at h
  obtain ⟨hr, ht⟩ := Bool.and_eq_true_iff.1 h
  obtain ⟨t, htoken, -⟩ := (Option.any_eq_true _ _).1 ht
  obtain ⟨m, hv⟩ := (Verdict.refuses_iff x.call).1 hr
  rw [Settlement.told?, hv, htoken]

/-- A reply that ends the session tells so, and leads to the sign-in
page. -/
theorem settled_of_ends {c : Console} {x : Settlement}
    (h : x.ends c = true) :
    c.settled x
      = { c with
          session := c.session.teardown
          notices := c.notices ++ [expiryWarning]
          visits := c.visits ++ [Route.loginPath]
          tally := c.tally.bump x.key } := by
  have hkey : (c.settled x).tally = c.tally.bump x.key := by
    rw [settled, settle_tally, settle_outcome c default]
    rfl
  have hsettled := settle_of_endsBy x.call h
  rw [settled, hsettled] at hkey ⊢
  rw [← hkey]
  rfl

end Console

-- ======================================================== what they add up to

/-- What some replies make of a console when all of them were settled. -/
structure Settles (c d : Console) (xs : List Settlement) : Prop where
  /-- Nothing else has changed. -/
  frame : d = { c with
    session := d.session, notices := d.notices, visits := d.visits
    tally := d.tally }
  session : d.session
    = if c.expiresBy xs then c.session.teardown else c.session
  visits : d.visits
    = c.visits ++ if c.expiresBy xs then [Route.loginPath] else []
  /-- One warning if the session ended, and the errors. -/
  notices : ∃ told, d.notices = c.notices ++ told
    ∧ told.Perm ((if c.expiresBy xs then [expiryWarning] else [])
        ++ xs.filterMap Settlement.told?)
  counters : ∀ key,
    d.tally.count key = c.tally.count key + (xs.map Settlement.key).count key

namespace Settles

variable {c d e : Console} {xs ys : List Settlement}

theorem refl (c : Console) : Settles c c [] where
  frame := rfl
  session := rfl
  visits := (List.append_nil _).symm
  notices := ⟨[], (List.append_nil _).symm, .refl _⟩
  counters := fun _ => rfl

/-- One reply, by whether it ends the session: then the warning is shown
in place of an error, and the page to sign in is visited; if not, its
error is shown, if it has one. -/
theorem one (c : Console) (x : Settlement) : Settles c (c.settled x) [x] := by
  have hcount : ∀ key, (c.tally.bump x.key).count key
      = c.tally.count key + ([x].map Settlement.key).count key := by
    intro key
    rw [Tally.count_bump, List.map_singleton, List.count_singleton]
    by_cases hkey : key = x.key
    · rw [if_pos hkey, if_pos (beq_iff_eq.2 hkey.symm)]
    · rw [if_neg hkey, if_neg fun heq => hkey (beq_iff_eq.1 heq).symm]
  cases h : x.ends c with
  | true =>
      have hexpires : c.expiresBy [x] = true := by
        rw [Console.expiresBy, List.any_cons, h, Bool.true_or]
      have htold : [x].filterMap Settlement.told? = [] := by
        rw [List.filterMap_cons_none (Console.told?_of_ends h)]
        rfl
      rw [Console.settled_of_ends h]
      exact
        { frame := rfl
          session := by rw [hexpires]; rfl
          visits := by rw [hexpires]; rfl
          notices := ⟨[expiryWarning], rfl, by rw [hexpires, htold]; rfl⟩
          counters := hcount }
  | false =>
      have hexpires : c.expiresBy [x] = false := by
        rw [Console.expiresBy, List.any_cons, h, Bool.false_or]
        rfl
      have htold : [x].filterMap Settlement.told? = x.told?.toList := by
        cases ht : x.told? with
        | none => rw [List.filterMap_cons_none ht]; rfl
        | some n => rw [List.filterMap_cons_some ht]; rfl
      rw [Console.settled_of_not_ends h]
      exact
        { frame := rfl
          session := by rw [hexpires]; rfl
          visits := by rw [hexpires]; exact (List.append_nil _).symm
          notices := ⟨_, rfl, by rw [hexpires, htold]; rfl⟩
          counters := hcount }

/-- The second replies end the session only if the first have not. -/
theorem expiresBy_behind (h : Settles c d xs) (ys : List Settlement) :
    d.expiresBy ys = (!c.expiresBy xs && c.expiresBy ys) := by
  cases hx : c.expiresBy xs with
  | true =>
      have hnobody : d.session.token? = none := by
        rw [h.session, hx]
        rfl
      refine List.any_eq_false.2 fun x _ => ?_
      rw [Settlement.ends_of_signedOut hnobody]
      exact Bool.false_ne_true
  | false =>
      have hsame : d.session = c.session := by
        rw [h.session, hx]
        rfl
      exact congrArg (ys.any ·) (funext (Settlement.ends_congr hsame))

/-- Replies behind replies. Only the first ones that refuse the token
held can end the session, so at most one half has a warning. In the
notices as a whole it may have changed places with errors. -/
theorem trans (h : Settles c d xs) (k : Settles d e ys) :
    Settles c e (xs ++ ys) := by
  have hall : c.expiresBy (xs ++ ys) = (c.expiresBy xs || c.expiresBy ys) :=
    List.any_append
  have hbehind := h.expiresBy_behind ys
  refine ⟨?_, ?_, ?_, ?_, ?_⟩
  · rw [k.frame, h.frame]
  · rw [k.session, h.session, hbehind, hall]
    cases c.expiresBy xs <;> rfl
  · rw [k.visits, h.visits, hbehind, hall, List.append_assoc]
    cases c.expiresBy xs <;> cases c.expiresBy ys <;> rfl
  · obtain ⟨first, hfirst, hp⟩ := h.notices
    obtain ⟨second, hsecond, hq⟩ := k.notices
    refine ⟨first ++ second, ?_, ?_⟩
    · rw [hsecond, hfirst, List.append_assoc]
    · -- the warning is among the first, or among the second, or in none
      have hpq := hp.append hq
      rw [hbehind] at hpq
      rw [hall, List.filterMap_append]
      refine hpq.trans ?_
      cases c.expiresBy xs with
      | true => simp
      | false =>
          simp only [Bool.not_false, Bool.true_and, Bool.false_or,
            Bool.false_eq_true, if_false, List.nil_append]
          rw [← List.append_assoc, ← List.append_assoc]
          exact List.perm_append_comm.append_right _
  · intro key
    rw [k.counters, h.counters, List.map_append, List.count_append,
      Nat.add_assoc]

/-- The order of the replies does not count. -/
theorem of_perm (h : Settles c d xs) (hp : xs.Perm ys) :
    Settles c d ys := by
  have hexpires : c.expiresBy ys = c.expiresBy xs := by
    rw [Console.expiresBy, Console.expiresBy, Bool.eq_iff_iff,
      List.any_eq_true, List.any_eq_true]
    simp only [hp.mem_iff]
  refine ⟨h.frame, ?_, ?_, ?_, ?_⟩
  · rw [hexpires]
    exact h.session
  · rw [hexpires]
    exact h.visits
  · obtain ⟨told, htold, hperm⟩ := h.notices
    rw [hexpires]
    exact ⟨told, htold, hperm.trans ((hp.filterMap _).append_left _)⟩
  · intro key
    rw [h.counters, (hp.map _).count_eq]

end Settles

/-- Replies are settled one after the other. -/
theorem Console.settledAll_settles (xs : List Settlement) :
    ∀ c : Console, Settles c (c.settledAll xs) xs := by
  induction xs with
  | nil => exact Settles.refl
  | cons x xs ih => exact fun c => (Settles.one c x).trans (ih (c.settled x))

-- ============================================================== conclusions

/-- Whether two consoles are the same, but perhaps for the order of
notices and for the order that the counters are kept in. -/
structure Console.SameInSum (d e : Console) : Prop where
  rest : e = { d with notices := e.notices, tally := e.tally }
  notices : e.notices.Perm d.notices
  counters : ∀ key, e.tally.count key = d.tally.count key

namespace Settles

variable {c d e : Console} {xs : List Settlement}

/-- The same replies make the same of a console. -/
theorem sameInSum (h : Settles c d xs) (k : Settles c e xs) :
    d.SameInSum e := by
  refine ⟨?_, ?_, ?_⟩
  · rw [k.frame, h.frame, k.session, h.session, k.visits, h.visits]
  · obtain ⟨first, hfirst, hp⟩ := h.notices
    obtain ⟨second, hsecond, hq⟩ := k.notices
    rw [hfirst, hsecond]
    exact (hq.trans hp.symm).append_left _
  · intro key
    rw [k.counters, h.counters]

/-- If the session ends, there is one warning more and no other. -/
theorem warnings (h : Settles c d xs) :
    d.notices.countP (·.level = .warning)
      = c.notices.countP (·.level = .warning)
        + (c.expiresBy xs).toNat := by
  obtain ⟨told, htold, hperm⟩ := h.notices
  have herrors : (xs.filterMap Settlement.told?).countP
      (·.level = .warning) = 0 := by
    refine List.countP_eq_zero.2 fun n hn => ?_
    obtain ⟨x, -, hx⟩ := List.mem_filterMap.1 hn
    rw [Settlement.told?_isError hx]
    decide
  rw [htold, List.countP_append, hperm.countP_eq, List.countP_append,
    herrors]
  cases c.expiresBy xs <;> rfl

end Settles
end SecurityConsole
