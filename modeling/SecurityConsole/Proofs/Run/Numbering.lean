/-
The requests under way, and their numbers.

Every request under way in a run has a number of its own, below the number
of the next one (`Workload.Numbered`, `run_numbered`). So a reply that
names a number is the reply to one request, and it reaches just the job
that waits for it. The statements about lists (`Fresh`) come first: in all
moves, the requests of one job are replaced, either by some of them or by
new ones that are numbered on.
-/
import SecurityConsole.Proofs.Run.Task
import SecurityConsole.Proofs.Run.Trail

namespace SecurityConsole

-- =========================================================== outstanding

/-- The requests that wait for a reply, with their calls. -/
def Slots.outstanding : {cs : List Call} → Slots cs → List Sent
  | [], _ => []
  | call :: _, (.pending n request, rest) =>
    ⟨n, call, request⟩ :: outstanding rest
  | _ :: _, (.settled _, rest) => outstanding rest

/-- The requests that a job waits for, with their calls. -/
def Paused.outstanding {α : Type} : Paused α → List Sent
  | .ended _ => []
  | .waiting slots _ => slots.outstanding

/-- The requests under way, with their calls. -/
def Workload.outstanding {α : Type} (w : Workload α) : List Sent :=
  w.jobs.flatMap (·.2.outstanding) ++
    match w.reload with
    | some p => p.outstanding
    | none => []

/-- The slots that are pending are those of the requests outstanding. -/
theorem Slots.pending_eq : ∀ {cs : List Call} (slots : Slots cs),
    slots.pending = slots.outstanding.map fun s => (s.number, s.request) := by
  intro cs
  induction cs with
  | nil => intro slots; rfl
  | cons call rest ih =>
      rintro ⟨slot, slots⟩
      cases slot with
      | settled outcome => exact ih slots
      | pending n request => exact congrArg ((n, request) :: ·) (ih slots)

namespace Paused

variable {α : Type}

theorem pending_eq (p : Paused α) :
    p.pending = p.outstanding.map fun s => (s.number, s.request) := by
  cases p with
  | ended result => rfl
  | waiting slots go => exact slots.pending_eq

/-- Whether a numbered request is one that the job waits for. -/
def awaits (p : Paused α) (number : Nat) : Bool :=
  p.pending.any (·.1 = number)

/-- A job waits for a number if one of its requests has it. -/
theorem awaits_iff {p : Paused α} {number : Nat} :
    p.awaits number = true ↔ ∃ s ∈ p.outstanding, s.number = number := by
  unfold awaits
  rw [pending_eq]
  simp

end Paused

-- ========================================================= fresh numbers

/-- Requests with numbers of their own, all below the next one. -/
structure Fresh (next : Nat) (ss : List Sent) : Prop where
  distinct : (ss.map Sent.number).Nodup
  below : ∀ s ∈ ss, s.number < next

/-- Whether requests are some of others, or numbered on behind them. -/
def Renewed (next : Nat) (old new : List Sent) : Prop :=
  new.Sublist old ∨ ∃ k, new.map Sent.number = List.range' next k

theorem Fresh.empty (next : Nat) : Fresh next [] :=
  ⟨List.nodup_nil, fun _ h => absurd h List.not_mem_nil⟩

/-- A number names one request. -/
theorem Fresh.eq_of_number {next : Nat} {ss : List Sent}
    (h : Fresh next ss) {s t : Sent} (hs : s ∈ ss) (ht : t ∈ ss)
    (heq : s.number = t.number) : s = t := by
  have hdistinct := h.distinct
  clear h
  induction ss with
  | nil => cases hs
  | cons u ss ih =>
      have hcons := List.nodup_cons.1 hdistinct
      rcases List.mem_cons.1 hs with rfl | hs'
      · rcases List.mem_cons.1 ht with rfl | ht'
        · rfl
        · exact (hcons.1 (List.mem_map.2 ⟨t, ht', heq.symm⟩)).elim
      · rcases List.mem_cons.1 ht with rfl | ht'
        · exact (hcons.1 (List.mem_map.2 ⟨s, hs', heq⟩)).elim
        · exact ih hs' ht' hcons.2

/-- Numbers that go on from `next` are none of those below it. -/
theorem nodup_numbered_on {next k : Nat} {before new behind : List Sent}
    (hdistinct : ((before ++ behind).map Sent.number).Nodup)
    (hbelow : ∀ s ∈ before ++ behind, s.number < next)
    (hk : new.map Sent.number = List.range' next k) :
    ((before ++ new ++ behind).map Sent.number).Nodup := by
  have hperm : ((before ++ new ++ behind).map Sent.number).Perm
      (new.map Sent.number ++ (before ++ behind).map Sent.number) := by
    rw [← List.map_append]
    refine List.Perm.map _ ?_
    rw [← List.append_assoc]
    exact List.perm_append_comm.append_right behind
  rw [hperm.nodup_iff, List.nodup_append, hk]
  refine ⟨List.nodup_range', hdistinct, ?_⟩
  intro m hm n hn heq
  subst heq
  obtain ⟨s, hs, rfl⟩ := List.mem_map.1 hn
  have hge := (List.mem_range'_1.1 hm).1
  have hlt := hbelow s hs
  omega

/-- Fresh numbers stay fresh when the requests in the middle are
renewed. -/
theorem Fresh.renew {next next' : Nat} {before old new behind : List Sent}
    (h : Fresh next (before ++ old ++ behind)) (hr : Renewed next old new)
    (hle : next ≤ next') (hlt : ∀ s ∈ new, s.number < next') :
    Fresh next' (before ++ new ++ behind) := by
  have hsub : (before ++ behind).Sublist (before ++ old ++ behind) := by
    rw [List.append_assoc]
    exact (List.sublist_append_right old behind).append_left before
  have hbelow : ∀ s ∈ before ++ behind, s.number < next :=
    fun s hs => h.below s (hsub.subset hs)
  refine ⟨?_, ?_⟩
  · rcases hr with hsome | ⟨k, hk⟩
    · have hwhole : (before ++ new ++ behind).Sublist
          (before ++ old ++ behind) :=
        (hsome.append_left before).append_right behind
      exact (hwhole.map Sent.number).nodup h.distinct
    · exact nodup_numbered_on ((hsub.map Sent.number).nodup h.distinct)
        hbelow hk
  · intro s hs
    rcases List.mem_append.1 hs with hs | hs
    · rcases List.mem_append.1 hs with hs | hs
      · exact Nat.lt_of_lt_of_le
          (hbelow s (List.mem_append_left _ hs)) hle
      · exact hlt s hs
    · exact Nat.lt_of_lt_of_le (hbelow s (List.mem_append_right _ hs)) hle

-- ====================================================== numbers of a job

/-- Requests that are sent together are numbered on. -/
theorem Slots.send_numbers (cs : List Call) : ∀ (next : Nat) (c : Console),
    ∃ k, (Slots.send next c cs).1.outstanding.map Sent.number
      = List.range' next k := by
  induction cs with
  | nil => intro next c; exact ⟨0, rfl⟩
  | cons call rest ih =>
      intro next c
      cases h : c.request? call with
      | some request =>
          obtain ⟨k, hk⟩ := ih (next + 1) c
          refine ⟨k + 1, ?_⟩
          rw [send_cons_of_some h, List.range'_succ, ← hk]
          rfl
      | none =>
          rw [send_cons_of_none h]
          exact ih next _

/-- The requests that a job waits for behind its next steps are numbered
on. -/
theorem Job.advance_numbers {α : Type} (next : Nat) (j : Job α) :
    ∀ c : Console, ∃ k,
      (j.advance next c).1.outstanding.map Sent.number
        = List.range' next k := by
  induction j with
  | done result => intro c; exact ⟨0, rfl⟩
  | read go ih => intro c; exact ih c c
  | act a go ih => intro c; exact ih _ _
  | calls cs go ih =>
      intro c
      cases h : (Slots.send next c cs).1.answers? with
      | some as =>
          rw [advance_calls_of_some h]
          exact ih as _
      | none =>
          rw [advance_calls_of_none h]
          exact Slots.send_numbers cs next c

/-- A reply leaves some of the requests under way. -/
theorem Slots.deliver_outstanding (number : Nat) (reply : Reply)
    (c : Console) : ∀ {cs : List Call} (slots : Slots cs),
    (slots.deliver number reply c).1.outstanding.Sublist
      slots.outstanding := by
  intro cs
  induction cs with
  | nil => intro slots; exact List.Sublist.refl _
  | cons call rest ih =>
      rintro ⟨slot, slots⟩
      cases slot with
      | settled outcome => exact ih slots
      | pending n request =>
          by_cases h : n = number
          · simp only [deliver, h, if_true]
            exact List.sublist_cons_self _ _
          · simp only [deliver, h, if_false]
            exact (ih slots).cons_cons _

/-- A job that was handed a reply waits for some of its requests, or for
new ones. -/
theorem Paused.deliver_renewed {α : Type} (next number : Nat)
    (reply : Reply) (c : Console) (p : Paused α) :
    Renewed next p.outstanding
      (p.deliver next number reply c).1.outstanding := by
  cases p with
  | ended result => exact .inl (List.Sublist.refl _)
  | waiting slots go =>
      cases h : (slots.deliver number reply c).1.answers? with
      | some as =>
          rw [deliver_of_some h]
          exact .inr (Job.advance_numbers _ _ _)
      | none =>
          rw [deliver_of_none h]
          exact .inl (Slots.deliver_outstanding number reply c slots)

end SecurityConsole
