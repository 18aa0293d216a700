/-
What the changes of a session do, one at a time: to the identity in
memory, and to the two items in storage.

Every change that names a token does nothing unless the session holds
just that token (`refreshUser_of_not_holds`, `expire_of_not_holds`). A
session that is torn down has neither token nor user left, whatever the
storage says; the items are gone as far as their removals went well
(`get?_teardown_tokenKey`, `get?_teardown_userKey`).
-/
import SecurityConsole.Session
import SecurityConsole.Proofs.Storage.Writing

namespace SecurityConsole.Session

/-- Nobody is signed in. -/
def nobody : Identity := ⟨none, none⟩

variable {s : Session} {token : String} {user : SessionUser}

-- ================================================================ holding

/-- Holding a token is having just that one. -/
theorem holds_iff : s.holds token = true ↔ s.token? = some token := by
  unfold holds token?
  exact decide_eq_true_iff

/-- Without a token, or with another one, it is not held. -/
theorem not_holds_iff : s.holds token = false ↔ s.token? ≠ some token := by
  unfold holds token?
  exact decide_eq_false_iff_not

-- ================================================================ changes

/-- Refreshing under the token that is held puts the new user beside
it. -/
theorem refreshUser_of_holds (h : s.token? = some token) :
    (s.refreshUser token user).2.identity = ⟨some token, some user⟩ := by
  unfold refreshUser
  rw [if_pos (holds_iff.2 h)]
  show (⟨s.identity.token, some user⟩ : Identity) = _
  rw [show s.identity.token = some token from h]

/-- A user that comes too late, for a token no longer held, is
ignored. -/
theorem refreshUser_of_not_holds (h : s.token? ≠ some token) :
    (s.refreshUser token user).2 = s := by
  unfold refreshUser
  rw [not_holds_iff.2 h]
  rfl

/-- A new user leaves the token. -/
theorem refreshUser_token? :
    (s.refreshUser token user).2.token? = s.token? := by
  unfold refreshUser
  cases s.holds token <;> rfl

/-- What a token that expires leaves: nobody, or everything. -/
theorem expire_cases (s : Session) (token : String) :
    (s.expire token).2 = s.teardown ∨ (s.expire token).2 = s := by
  unfold expire
  cases s.holds token with
  | true => exact .inl rfl
  | false => exact .inr rfl

/-- The token that is held ends the session, and tells so. -/
theorem expire_of_holds (h : s.token? = some token) :
    s.expire token = (true, s.teardown) := by
  unfold expire
  rw [if_pos (holds_iff.2 h)]

/-- Any other token has ended before, and ends nothing. -/
theorem expire_of_not_holds (h : s.token? ≠ some token) :
    s.expire token = (false, s) := by
  unfold expire
  rw [not_holds_iff.2 h]
  rfl

/-- A token that is held behind an expiry is another one, and nothing has
expired. -/
theorem expire_survivor {held : String}
    (h : (s.expire token).2.token? = some held) :
    (s.expire token).2 = s ∧ s.token? = some held ∧ held ≠ token := by
  by_cases hheld : s.token? = some token
  · rw [expire_of_holds hheld] at h
    cases h
  · rw [expire_of_not_holds hheld] at h ⊢
    refine ⟨rfl, h, ?_⟩
    rintro rfl
    exact hheld h

-- ================================================================== items

/-- The two items have different keys, so that a write of one leaves the
other. -/
theorem userKey_ne_tokenKey : userKey ≠ tokenKey := by decide

/-- Behind a teardown there is no token, if its removal went well. -/
theorem get?_teardown_tokenKey
    (h : (s.storage.remove tokenKey).1 = .ok ()) :
    s.teardown.storage.get? tokenKey = none := by
  show ((s.storage.remove tokenKey).2.remove userKey).2.get? tokenKey = none
  rw [Storage.get?_remove_of_ne userKey_ne_tokenKey.symm]
  exact Storage.get?_remove_self h

/-- Behind a teardown there is no user, if its removal went well. -/
theorem get?_teardown_userKey
    (h : ((s.storage.remove tokenKey).2.remove userKey).1 = .ok ()) :
    s.teardown.storage.get? userKey = none :=
  Storage.get?_remove_self h

end SecurityConsole.Session
