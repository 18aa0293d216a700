/-
What storage tells after writes that failed.

Token and user are two items, and each is written on its own. When one of
the two writes fails, the storage tells of a token and a user that never
were together: the new token with the user from before, or the token from
before with the new user (`Mixes`). This is all that can happen: what a
storage tells is what it told at first, or was handed over together, or
was mixed by one of the changes (`told_run_cases`); and each such change
does it at once (`Mixes.told`).
-/
import SecurityConsole.Proofs.Session.Stored

namespace SecurityConsole

-- ======================================================== clean failures

namespace Storage

/-- Writes that fail change nothing, whatever was written before. -/
def FailsCleanly (s : Storage) : Prop :=
  ∀ (ws : List Command) (w : Command),
    ((s.after ws).execute w).1 ≠ .ok () →
      ((s.after ws).execute w).2.get? = (s.after ws).get?

namespace FailsCleanly

variable {s : Storage}

/-- Behind a write, later writes fail just as cleanly. -/
theorem execute (h : s.FailsCleanly) (w : Command) :
    (s.execute w).2.FailsCleanly :=
  fun ws v => h (w :: ws) v

/-- So they do behind any writes. -/
theorem after (h : s.FailsCleanly) (ws : List Command) :
    (s.after ws).FailsCleanly := by
  induction ws generalizing s with
  | nil => exact h
  | cons w ws ih => exact ih (h.execute w)

/-- A value that cannot be stored changes no item. -/
theorem get?_set (h : s.FailsCleanly) {key value : String}
    (hfail : (s.set key value).1 ≠ .ok ()) :
    (s.set key value).2.get? = s.get? :=
  h [] (.set key value) hfail

/-- An item that cannot be removed leaves all items. -/
theorem get?_remove (h : s.FailsCleanly) {key : String}
    (hfail : (s.remove key).1 ≠ .ok ()) :
    (s.remove key).2.get? = s.get? :=
  h [] (.remove key) hfail

/-- A storage in memory that refuses any of its writes fails cleanly. -/
theorem faulty (items : Items) (n : Nat) (fails : Nat → Write → Bool) :
    (Storage.faulty items n fails).FailsCleanly := by
  intro ws
  induction ws generalizing items n with
  | nil =>
      intro w hfail
      cases w with
      | set key value =>
          by_cases hf : fails n .set
          · simp only [Storage.after, List.foldl_nil, Storage.execute, set,
              hf, if_true]
            rfl
          · simp [Storage.after, Storage.execute, set, hf] at hfail
      | remove key =>
          by_cases hf : fails n .remove
          · simp only [Storage.after, List.foldl_nil, Storage.execute,
              remove, hf, if_true]
            rfl
          · simp [Storage.after, Storage.execute, remove, hf] at hfail
  | cons v ws ih =>
      obtain ⟨items', hnext⟩ : ∃ items',
          ((Storage.faulty items n fails).execute v).2
            = .faulty items' (n + 1) fails := by
        cases v with
        | set key value =>
            simp only [Storage.execute, set]
            split <;> exact ⟨_, rfl⟩
        | remove key =>
            simp only [Storage.execute, remove]
            split <;> exact ⟨_, rfl⟩
      -- a first write leaves a storage of the same kind, one write on
      have hafter : (Storage.faulty items n fails).after (v :: ws)
          = (Storage.faulty items' (n + 1) fails).after ws := by
        rw [← hnext]
        rfl
      rw [hafter]
      exact ih items' (n + 1)

end FailsCleanly
end Storage

namespace Session

-- ================================================================== told

/-- Who is signed in, as a storage tells it. -/
def told (storage : Storage) : Identity := (hydrate storage).identity

/-- A storage tells of a token and a user just if it has that token,
which is not empty, and a text that reads as that user. -/
theorem told_eq_iff {storage : Storage} {token : String}
    {user : SessionUser} :
    told storage = ⟨some token, some user⟩
      ↔ token ≠ "" ∧ storage.get? tokenKey = some token
        ∧ (storage.get? userKey).bind SessionUser.ofText? = some user := by
  unfold told
  cases hstored : (storage.get? tokenKey).filter (· ≠ "") with
  | some stored =>
      obtain ⟨hget, hne⟩ := Option.filter_eq_some_iff.1 hstored
      rw [hydrate_of_token hstored, hget]
      constructor
      · intro h
        injection h with htoken huser
        cases htoken
        exact ⟨of_decide_eq_true hne, rfl, huser⟩
      · rintro ⟨-, htoken, huser⟩
        rw [htoken, huser]
  | none =>
      have hidentity : (hydrate storage).identity = nobody := by
        unfold hydrate
        rw [hstored]
        cases storage.get? userKey <;> rfl
      rw [hidentity]
      constructor
      · intro h
        cases h
      · rintro ⟨hne, hget, -⟩
        rw [hget, filter_token hne] at hstored
        cases hstored

/-- Only the items count in what a storage tells. -/
theorem told_congr {storage other : Storage}
    (h : storage.get? = other.get?) {token : String} {user : SessionUser} :
    told storage = ⟨some token, some user⟩
      ↔ told other = ⟨some token, some user⟩ := by
  rw [told_eq_iff, told_eq_iff, h]

-- ================================================================= mixed

/-- The token and the user that a change hands over. -/
def Change.pairs : Change → Option (String × SessionUser)
  | .establish token user | .refreshUser token user => some (token, user)
  | .expire _ | .clear => none

/-- A change that stores a token beside a user of another one: a signing
in of which one write fails, or a new user while the storage still has
the token of another session. -/
def Mixes (s : Session) (token : String) (user : SessionUser) :
    Change → Prop
  | .establish new newUser =>
    let first := s.storage.set tokenKey new
    let second := first.2.set userKey newUser.toText
    (first.1 = .ok () ∧ second.1 ≠ .ok () ∧ token = new
        ∧ (s.storage.get? userKey).bind SessionUser.ofText? = some user)
      ∨ (first.1 ≠ .ok () ∧ second.1 = .ok () ∧ user = newUser
        ∧ s.storage.get? tokenKey = some token)
  | .refreshUser held newUser =>
    s.token? = some held ∧ held ≠ token
      ∧ (s.storage.set userKey newUser.toText).1 = .ok ()
      ∧ user = newUser ∧ s.storage.get? tokenKey = some token
  | .expire _ | .clear => False

variable {s : Session} {token : String} {user : SessionUser}

/-- Behind a teardown a session is told only if both removals failed:
without its token or without its user it would be none. Then the items
are those from before, and so is what they tell. -/
theorem told_teardown (hclean : s.storage.FailsCleanly)
    (h : told s.teardown.storage = ⟨some token, some user⟩) :
    told s.storage = ⟨some token, some user⟩ := by
  by_cases htoken : (s.storage.remove tokenKey).1 = .ok ()
  · have hgone := get?_teardown_tokenKey htoken
    rw [(told_eq_iff.1 h).2.1] at hgone
    cases hgone
  by_cases huser : ((s.storage.remove tokenKey).2.remove userKey).1 = .ok ()
  · have hgone := get?_teardown_userKey huser
    have hread := (told_eq_iff.1 h).2.2
    rw [hgone] at hread
    cases hread
  · have hkept : s.teardown.storage.get? = s.storage.get? :=
      ((hclean.execute (.remove tokenKey)).get?_remove huser).trans
        (hclean.get?_remove htoken)
    exact (told_congr hkept).1 h

/-- Behind a signing in, by what became of its two writes. If both went
well the new pair is told, and if both failed the old one; if one of
them failed, what is told is half new and half old. -/
theorem told_establish {new : String} {newUser : SessionUser}
    (hclean : s.storage.FailsCleanly)
    (h : told (s.establish new newUser).storage
      = ⟨some token, some user⟩) :
    told s.storage = ⟨some token, some user⟩
      ∨ (new, newUser) = (token, user)
      ∨ s.Mixes token user (.establish new newUser) := by
  obtain ⟨hne, htoken, huser⟩ := told_eq_iff.1 h
  have hstored : (s.establish new newUser).storage.get? tokenKey
      = (s.storage.set tokenKey new).2.get? tokenKey :=
    Storage.get?_set_of_ne userKey_ne_tokenKey.symm _ _
  have hbefore : (s.storage.set tokenKey new).2.get? userKey
      = s.storage.get? userKey :=
    Storage.get?_set_of_ne userKey_ne_tokenKey _ _
  rw [hstored] at htoken
  have hsecond : (s.storage.set tokenKey new).2.FailsCleanly :=
    hclean.execute (.set tokenKey new)
  by_cases h1 : (s.storage.set tokenKey new).1 = .ok () <;>
    by_cases h2 : ((s.storage.set tokenKey new).2.set userKey
      newUser.toText).1 = .ok ()
  · -- both writes went well
    rw [Storage.get?_set_self h1] at htoken
    have hnew : (s.establish new newUser).storage.get? userKey = _ :=
      Storage.get?_set_self h2
    rw [hnew, Option.bind_some, SessionUser.ofText?_toText] at huser
    cases htoken
    cases huser
    exact .inr (.inl rfl)
  · -- only the token was written, beside the user from before
    have hold : (s.establish new newUser).storage.get? = _ :=
      hsecond.get?_set h2
    rw [Storage.get?_set_self h1] at htoken
    rw [hold] at huser
    cases htoken
    exact .inr (.inr (.inl ⟨h1, h2, rfl, hbefore ▸ huser⟩))
  · -- only the user was written, beside the token from before
    have hnew : (s.establish new newUser).storage.get? userKey = _ :=
      Storage.get?_set_self h2
    rw [hclean.get?_set h1] at htoken
    rw [hnew, Option.bind_some, SessionUser.ofText?_toText] at huser
    cases huser
    exact .inr (.inr (.inr ⟨h1, h2, rfl, htoken⟩))
  · -- neither was written
    have hkept : (s.establish new newUser).storage.get? = s.storage.get? :=
      (hsecond.get?_set h2).trans (hclean.get?_set h1)
    exact .inl ((told_congr hkept).1 h)

/-- Behind a new user. Its write leaves the stored token, which need not
be the one that the session holds: that one may never have been stored.
Only then does the user come to stand beside the token of another
session. -/
theorem told_refreshUser {held : String} {newUser : SessionUser}
    (hclean : s.storage.FailsCleanly)
    (h : told (s.refreshUser held newUser).2.storage
      = ⟨some token, some user⟩) :
    told s.storage = ⟨some token, some user⟩
      ∨ (held, newUser) = (token, user)
      ∨ s.Mixes token user (.refreshUser held newUser) := by
  -- without the token nothing is written; with it, the write may fail,
  -- or meet the token of another session in the storage
  by_cases hheld : s.token? = some held
  · have hstorage : (s.refreshUser held newUser).2.storage
        = (s.storage.set userKey newUser.toText).2 := by
      unfold refreshUser
      rw [if_pos (holds_iff.2 hheld)]
    rw [hstorage] at h
    obtain ⟨hne, htoken, huser⟩ := told_eq_iff.1 h
    by_cases hok : (s.storage.set userKey newUser.toText).1 = .ok ()
    · rw [Storage.get?_set_of_ne userKey_ne_tokenKey.symm] at htoken
      rw [Storage.get?_set_self hok, Option.bind_some,
        SessionUser.ofText?_toText] at huser
      cases huser
      by_cases hsame : held = token
      · exact .inr (.inl (by rw [hsame]))
      · exact .inr (.inr ⟨hheld, hsame, hok, rfl, htoken⟩)
    · exact .inl ((told_congr (hclean.get?_set hok)).1 h)
  · rw [refreshUser_of_not_holds hheld] at h
    exact .inl h

/-- What the storage tells after a change. -/
theorem told_apply (c : Change) (hclean : s.storage.FailsCleanly)
    (h : told (s.apply c).storage = ⟨some token, some user⟩) :
    told s.storage = ⟨some token, some user⟩
      ∨ c.pairs = some (token, user) ∨ s.Mixes token user c := by
  cases c with
  | establish new newUser =>
      rcases told_establish hclean h with hold | hpair | hmixed
      · exact .inl hold
      · exact .inr (.inl (congrArg some hpair))
      · exact .inr (.inr hmixed)
  | refreshUser held newUser =>
      rcases told_refreshUser hclean h with hold | hpair | hmixed
      · exact .inl hold
      · exact .inr (.inl (congrArg some hpair))
      · exact .inr (.inr hmixed)
  | clear => exact .inl (told_teardown hclean h)
  | expire ended =>
      have h' : told (s.expire ended).2.storage = _ := h
      rcases s.expire_cases ended with heq | heq <;> rw [heq] at h'
      · exact .inl (told_teardown hclean h')
      · exact .inl h'

/-- A change that mixes does so at once. -/
theorem Mixes.told {c : Change} (hclean : s.storage.FailsCleanly)
    (hne : token ≠ "") (h : s.Mixes token user c) :
    told (s.apply c).storage = ⟨some token, some user⟩ := by
  refine told_eq_iff.2 ⟨hne, ?_⟩
  cases c with
  | establish new newUser =>
      have hsecond : (s.storage.set tokenKey new).2.FailsCleanly :=
        hclean.execute (.set tokenKey new)
      show Storage.get? (Storage.set _ userKey _).2 tokenKey = _
        ∧ (Storage.get? (Storage.set _ userKey _).2 userKey).bind _ = _
      rw [Storage.get?_set_of_ne userKey_ne_tokenKey.symm]
      rcases h with ⟨h1, h2, rfl, huser⟩ | ⟨h1, h2, rfl, htoken⟩
      · refine ⟨Storage.get?_set_self h1, ?_⟩
        rw [hsecond.get?_set h2]
        show (Storage.get? (Storage.set _ tokenKey _).2 userKey).bind _ = _
        rw [Storage.get?_set_of_ne userKey_ne_tokenKey]
        exact huser
      · refine ⟨by rw [hclean.get?_set h1]; exact htoken, ?_⟩
        rw [Storage.get?_set_self h2, Option.bind_some]
        exact SessionUser.ofText?_toText user
  | refreshUser held newUser =>
      obtain ⟨hheld, -, hok, rfl, htoken⟩ := h
      have hstorage : (s.apply (.refreshUser held user)).storage
          = (s.storage.set userKey user.toText).2 := by
        show (s.refreshUser held user).2.storage = _
        unfold refreshUser
        rw [if_pos (holds_iff.2 hheld)]
      rw [hstorage, Storage.get?_set_of_ne userKey_ne_tokenKey.symm,
        Storage.get?_set_self hok, Option.bind_some]
      exact ⟨htoken, SessionUser.ofText?_toText user⟩
  | expire _ => exact h.elim
  | clear => exact h.elim

-- ================================================================== runs

/-- A change of the run stored the token beside a user of another one. -/
def MixedIn (s : Session) (cs : List Change) (token : String)
    (user : SessionUser) : Prop :=
  ∃ before c behind, cs = before ++ c :: behind
    ∧ (s.run before).Mixes token user c

/-- Along a run. What the storage tells in the end came with some
change, or was told by the storage all along. -/
theorem told_run (cs : List Change) : ∀ {s : Session},
    s.storage.FailsCleanly →
    told (s.run cs).storage = ⟨some token, some user⟩ →
    told s.storage = ⟨some token, some user⟩
      ∨ (∃ c ∈ cs, c.pairs = some (token, user))
      ∨ s.MixedIn cs token user := by
  induction cs with
  | nil => intro s _ h; exact .inl h
  | cons c cs ih =>
      intro s hclean h
      have hnext : (s.apply c).storage.FailsCleanly := by
        rw [apply_storage]
        exact hclean.after _
      rcases ih hnext h with hold | ⟨d, hd, hpair⟩ |
        ⟨before, d, behind, rfl, hmixed⟩
      · rcases told_apply c hclean hold with hold | hpair | hmixed
        · exact .inl hold
        · exact .inr (.inl ⟨c, List.mem_cons_self, hpair⟩)
        · exact .inr (.inr ⟨[], c, cs, rfl, hmixed⟩)
      · exact .inr (.inl ⟨d, List.mem_cons_of_mem _ hd, hpair⟩)
      · exact .inr (.inr ⟨c :: before, d, behind, rfl, hmixed⟩)

/-- Hydration does not make a storage tell anything new. -/
theorem told_hydrate {storage : Storage}
    (h : told (hydrate storage).storage = ⟨some token, some user⟩) :
    told storage = ⟨some token, some user⟩ := by
  cases hstored : (storage.get? tokenKey).filter (· ≠ "") with
  | some stored =>
      rw [hydrate_of_token hstored] at h
      exact h
  | none =>
      cases huser : storage.get? userKey with
      | none =>
          rw [hydrate_of_empty hstored huser] at h
          exact h
      | some text =>
          -- the removal of the user does not bring the token back
          rw [hydrate_of_orphan hstored huser] at h
          obtain ⟨hne, htoken, -⟩ := told_eq_iff.1 h
          rw [Storage.get?_remove_of_ne userKey_ne_tokenKey.symm] at htoken
          rw [htoken, filter_token hne] at hstored
          cases hstored

/-- Any writes may fail, and change nothing then. The token and the user
that the storage tells behind a run were told by it at first, or were
handed over together by a change of the run, or were mixed by a change of
which only one of two writes went well, or which came while the storage
had the token of another session. -/
theorem told_run_cases {storage : Storage} (hclean : storage.FailsCleanly)
    (cs : List Change)
    (h : told ((hydrate storage).run cs).storage
      = ⟨some token, some user⟩) :
    told storage = ⟨some token, some user⟩
      ∨ (∃ c ∈ cs, c.pairs = some (token, user))
      ∨ (hydrate storage).MixedIn cs token user := by
  have hfirst : (hydrate storage).storage.FailsCleanly := by
    rw [hydrate_storage]
    exact hclean.after _
  rcases told_run cs hfirst h with hold | hrest
  · exact .inl (told_hydrate hold)
  · exact .inr hrest

/-- A storage that has a session, and refuses the second write. -/
def refusingSecond : Storage :=
  .faulty [(tokenKey, "t1"), (userKey, SessionUser.toText ⟨"alice", "admin"⟩)]
    0 fun n _ => n = 1

/-- Another user signs in, and only the token is stored. -/
def halfSignedIn : Session :=
  (hydrate refusingSecond).run [.establish "t2" ⟨"bob", "user"⟩]

/-- After a restart, the second user's token goes with the first user. -/
theorem told_halfSignedIn :
    told halfSignedIn.storage = ⟨some "t2", some ⟨"alice", "admin"⟩⟩
      ∧ told refusingSecond = ⟨some "t1", some ⟨"alice", "admin"⟩⟩
      ∧ (hydrate refusingSecond).MixedIn
        [.establish "t2" ⟨"bob", "user"⟩] "t2" ⟨"alice", "admin"⟩ := by
  have htold : told halfSignedIn.storage
      = ⟨some "t2", some ⟨"alice", "admin"⟩⟩ := by decide +kernel
  have hfirst : told refusingSecond
      = ⟨some "t1", some ⟨"alice", "admin"⟩⟩ := by decide +kernel
  have hclean : refusingSecond.FailsCleanly := .faulty _ _ _
  refine ⟨htold, hfirst, ?_⟩
  rcases told_run_cases hclean _ htold with
    hold | ⟨c, hc, hpair⟩ | hmixed
  · rw [hfirst] at hold
    exact absurd hold (by decide)
  · rw [List.mem_singleton.1 hc] at hpair
    exact absurd hpair (by decide)
  · exact hmixed

end Session
end SecurityConsole
