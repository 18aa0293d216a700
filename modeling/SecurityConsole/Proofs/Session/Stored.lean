/-
A session and what its storage remembers of it, along any changes.

A change of a session writes to the storage, and does so in a fixed
order (`Change.writes`); what the storage answers is not looked at. While
every write goes well, the storage remembers just the session that wrote
to it (`Remembered`): each change keeps that (`Remembered.apply`), and
hydration begins with it (`remembered_hydrate`), whatever was left in the
storage. A stored user is read back as it was (`ofText?_toText`).
-/
import SecurityConsole.Proofs.Session.Changes
import SecurityConsole.Proofs.Storage.Reopening

namespace SecurityConsole

-- ========================================================== stored users

namespace SessionUser

open Json (Document Texts)

/-- The members of a stored user. -/
def texts (u : SessionUser) : Texts :=
  [("username", u.username), ("role", u.role)]

/-- A user is stored as an object of two strings. -/
theorem toText_eq (u : SessionUser) :
    u.toText = Json.print (.obj u.texts.members) := rfl

/-- A stored user is read back, whatever its name and role are. -/
theorem ofText?_toText (u : SessionUser) : ofText? u.toText = some u := by
  have hknown : Document.known? ["username", "role"]
      (Document.nestingLimit - 1) u.texts.read [] = some u.texts.members :=
    Document.known?_read _ u.texts [] (by simp [texts]) (by simp [texts])
  have hjson : (Document.object u.texts.read).recordJson?
      schema.fieldTable.names = some (.obj u.texts.members) := by
    show (Document.known? ["username", "role"] _ _ []).map Json.obj = _
    rw [hknown, Option.map_some]
  unfold ofText? Schema.ofString? Schema.ofDocument?
  rw [toText_eq, Json.ofString?_print_texts, Option.bind_some, hjson]
  rfl

end SessionUser

open Storage (Command Path FileStore)

namespace Session

-- =============================================================== changes

/-- The changes of a session. -/
inductive Change where
  | establish (token : String) (user : SessionUser)
  | refreshUser (token : String) (user : SessionUser)
  | expire (token : String)
  | clear

/-- The session after a change. -/
def apply (s : Session) : Change → Session
  | .establish token user => s.establish token user
  | .refreshUser token user => (s.refreshUser token user).2
  | .expire token => (s.expire token).2
  | .clear => s.clear.2

/-- The session after changes, one after the other. -/
def run (s : Session) (cs : List Change) : Session := cs.foldl apply s

-- ================================================================ writes

/-- The writes of signing in. -/
def signIn (token : String) (user : SessionUser) : List Command :=
  [.set tokenKey token, .set userKey user.toText]

/-- The writes of forgetting everything. -/
def forget : List Command := [.remove tokenKey, .remove userKey]

/-- What a change writes, in order. -/
def writes (s : Session) : Change → List Command
  | .establish token user => signIn token user
  | .refreshUser token user =>
    if s.holds token then [.set userKey user.toText] else []
  | .expire token => if s.holds token then forget else []
  | .clear => forget

/-- What changes write, one after the other. -/
def runWrites (s : Session) : List Change → List Command
  | [] => []
  | c :: cs => s.writes c ++ runWrites (s.apply c) cs

/-- What hydration writes: it removes a user without a token. -/
def hydrationWrites (storage : Storage) : List Command :=
  match (storage.get? tokenKey).filter (· ≠ ""), storage.get? userKey with
  | none, some _ => [.remove userKey]
  | _, _ => []

/-- What a change does to the storage are its writes. A change that
names a token writes only if that token is held. -/
theorem apply_storage (s : Session) (c : Change) :
    (s.apply c).storage = s.storage.after (s.writes c) := by
  cases c with
  | establish token user => rfl
  | clear => rfl
  | refreshUser token user =>
      show (s.refreshUser token user).2.storage = _
      rw [writes]
      unfold refreshUser
      cases s.holds token <;> rfl
  | expire token =>
      show (s.expire token).2.storage = _
      rw [writes]
      unfold expire
      cases s.holds token <;> rfl

/-- And the storage behind a run is the first one behind all writes of
the run: each change writes to what those before it have left. -/
theorem run_storage (cs : List Change) : ∀ s : Session,
    (s.run cs).storage = s.storage.after (s.runWrites cs) := by
  induction cs with
  | nil => intro s; rfl
  | cons c cs ih =>
      intro s
      show ((s.apply c).run cs).storage = _
      rw [ih, apply_storage]
      exact (List.foldl_append ..).symm

/-- Hydration writes too, when it finds a user without a token. -/
theorem hydrate_storage (storage : Storage) :
    (hydrate storage).storage = storage.after (hydrationWrites storage) := by
  unfold hydrate hydrationWrites
  cases (storage.get? tokenKey).filter (· ≠ "") with
  | some token => rfl
  | none => cases storage.get? userKey <;> rfl

-- ============================================================= hydration

/-- A token that is not empty passes for one. -/
theorem filter_token {token : String} (h : token ≠ "") :
    (some token).filter (· ≠ "") = some token := by
  simp [h]

/-- With a token, the user is the stored one. -/
theorem hydrate_of_token {storage : Storage} {token : String}
    (h : (storage.get? tokenKey).filter (· ≠ "") = some token) :
    hydrate storage = ⟨⟨some token,
      (storage.get? userKey).bind SessionUser.ofText?⟩, storage⟩ := by
  unfold hydrate
  rw [h]

/-- With neither token nor user, there is nothing to do. -/
theorem hydrate_of_empty {storage : Storage}
    (htoken : (storage.get? tokenKey).filter (· ≠ "") = none)
    (huser : storage.get? userKey = none) :
    hydrate storage = ⟨nobody, storage⟩ := by
  unfold hydrate
  rw [htoken, huser]
  rfl

/-- A user that is stored without a token is removed, and nobody is
signed in. -/
theorem hydrate_of_orphan {storage : Storage} {text : String}
    (htoken : (storage.get? tokenKey).filter (· ≠ "") = none)
    (huser : storage.get? userKey = some text) :
    hydrate storage = ⟨nobody, (storage.remove userKey).2⟩ := by
  unfold hydrate
  rw [htoken, huser]
  rfl

-- ============================================================ remembered

/-- The storage remembers the session: hydrating again gives the same
session, and changes nothing. -/
def Remembered (s : Session) : Prop := hydrate s.storage = s

/-- A session of a token and a user is remembered if both are stored,
and the token is not empty: an empty one would be taken for none. -/
theorem remembered_of_signIn {s : Session} {token : String}
    {user : SessionUser} (hne : token ≠ "")
    (hidentity : s.identity = ⟨some token, some user⟩)
    (htoken : s.storage.get? tokenKey = some token)
    (huser : s.storage.get? userKey = some user.toText) :
    s.Remembered := by
  obtain ⟨identity, storage⟩ := s
  cases hidentity
  have hstored : (storage.get? tokenKey).filter (· ≠ "") = some token := by
    rw [show storage.get? tokenKey = some token from htoken,
      filter_token hne]
  have hread : (storage.get? userKey).bind SessionUser.ofText?
      = some user := by
    rw [show storage.get? userKey = some user.toText from huser,
      Option.bind_some, SessionUser.ofText?_toText]
  unfold Remembered
  rw [hydrate_of_token hstored, hread]

/-- A session of nobody is remembered if neither is stored. -/
theorem remembered_of_nobody {s : Session} (hidentity : s.identity = nobody)
    (htoken : (s.storage.get? tokenKey).filter (· ≠ "") = none)
    (huser : s.storage.get? userKey = none) : s.Remembered := by
  obtain ⟨identity, storage⟩ := s
  cases hidentity
  exact hydrate_of_empty htoken huser

/-- What hydration makes of a storage is remembered from the start. Only
a user without a token takes a write to get there. -/
theorem remembered_hydrate {storage : Storage}
    (hok : storage.WentWell (hydrationWrites storage)) :
    (hydrate storage).Remembered := by
  cases htoken : (storage.get? tokenKey).filter (· ≠ "") with
  | some token =>
      have h := hydrate_of_token htoken
      unfold Remembered
      rw [h]
      exact h
  | none =>
      cases huser : storage.get? userKey with
      | none =>
          rw [hydrate_of_empty htoken huser]
          exact remembered_of_nobody rfl htoken huser
      | some text =>
          have hremoved : (storage.remove userKey).1 = .ok () := by
            unfold hydrationWrites at hok
            rw [htoken, huser] at hok
            exact hok.1
          -- the user is removed, and there is still no token
          rw [hydrate_of_orphan htoken huser]
          refine remembered_of_nobody rfl ?_ ?_
          · show (Storage.get? _ tokenKey).filter _ = none
            rw [Storage.get?_remove_of_ne userKey_ne_tokenKey.symm]
            exact htoken
          · exact Storage.get?_remove_self hremoved

variable {s : Session} {token : String} {user : SessionUser}

/-- A session that is remembered holds the token that is stored. -/
theorem Remembered.stored_token (h : s.Remembered)
    (htoken : s.token? = some token) :
    token ≠ "" ∧ s.storage.get? tokenKey = some token := by
  cases hstored : (s.storage.get? tokenKey).filter (· ≠ "") with
  | some stored =>
      have heq : s.token? = some stored := by
        rw [← h, hydrate_of_token hstored]
        rfl
      rw [htoken] at heq
      cases heq
      obtain ⟨hget, hne⟩ := Option.filter_eq_some_iff.1 hstored
      exact ⟨of_decide_eq_true hne, hget⟩
  | none =>
      have heq : s.token? = none := by
        rw [← h]
        unfold hydrate
        rw [hstored]
        cases s.storage.get? userKey <;> rfl
      rw [htoken] at heq
      cases heq

/-- Signing in writes token and user, in this order; the second write
leaves the item of the first. -/
theorem remembered_establish (hne : token ≠ "")
    (hok : s.storage.WentWell (signIn token user)) :
    (s.establish token user).Remembered := by
  obtain ⟨htoken, huser, -⟩ := hok
  refine remembered_of_signIn hne rfl ?_ (Storage.get?_set_self huser)
  show ((s.storage.set tokenKey token).2.set userKey _).2.get? _ = _
  rw [Storage.get?_set_of_ne userKey_ne_tokenKey.symm]
  exact Storage.get?_set_self htoken

/-- Tearing down removes both items. -/
theorem remembered_teardown (hok : s.storage.WentWell forget) :
    s.teardown.Remembered := by
  obtain ⟨htoken, huser, -⟩ := hok
  refine remembered_of_nobody rfl ?_ (get?_teardown_userKey huser)
  rw [get?_teardown_tokenKey htoken]
  rfl

/-- A new user is stored beside the token that is there already, because
the session holds just that one. -/
theorem Remembered.refreshUser (h : s.Remembered)
    (hok : s.storage.WentWell (s.writes (.refreshUser token user))) :
    (s.refreshUser token user).2.Remembered := by
  by_cases hheld : s.token? = some token
  · obtain ⟨hne, hstored⟩ := h.stored_token hheld
    have hholds := holds_iff.2 hheld
    have hstorage : (s.refreshUser token user).2.storage
        = (s.storage.set userKey user.toText).2 := by
      unfold Session.refreshUser
      rw [if_pos hholds]
    have hset : (s.storage.set userKey user.toText).1 = .ok () := by
      rw [writes, if_pos hholds] at hok
      exact hok.1
    refine remembered_of_signIn hne (refreshUser_of_holds hheld) ?_ ?_
    · rw [hstorage, Storage.get?_set_of_ne userKey_ne_tokenKey.symm]
      exact hstored
    · rw [hstorage]
      exact Storage.get?_set_self hset
  · rw [refreshUser_of_not_holds hheld]
    exact h

/-- An expiry tears down, or does nothing at all. -/
theorem Remembered.expire (h : s.Remembered)
    (hok : s.storage.WentWell (s.writes (.expire token))) :
    (s.expire token).2.Remembered := by
  by_cases hheld : s.token? = some token
  · rw [expire_of_holds hheld]
    rw [writes, if_pos (holds_iff.2 hheld)] at hok
    exact remembered_teardown hok
  · rw [expire_of_not_holds hheld]
    exact h

/-- No token that is handed over by the change is empty. -/
def Change.Named : Change → Prop
  | .establish token _ => token ≠ ""
  | _ => True

/-- A change whose writes go well keeps what the storage remembers up to
date. -/
theorem Remembered.apply {c : Change} (h : s.Remembered) (hc : c.Named)
    (hok : s.storage.WentWell (s.writes c)) : (s.apply c).Remembered := by
  cases c with
  | establish token user => exact remembered_establish hc hok
  | refreshUser token user => exact h.refreshUser hok
  | expire token => exact h.expire hok
  | clear => exact remembered_teardown hok

/-- Changes one after another. Their writes go well as a whole, and so
do those of each of them. -/
theorem Remembered.run {cs : List Change} (h : s.Remembered)
    (hc : ∀ c ∈ cs, c.Named) (hok : s.storage.WentWell (s.runWrites cs)) :
    (s.run cs).Remembered := by
  induction cs generalizing s with
  | nil => exact h
  | cons c cs ih =>
      obtain ⟨hfirst, hrest⟩ := Storage.wentWell_append.1 hok
      rw [← apply_storage] at hrest
      exact ih (h.apply (hc c List.mem_cons_self) hfirst)
        (fun d hd => hc d (List.mem_cons_of_mem _ hd)) hrest

-- ================================================================ restart

/-- The changes of a session that began with what a storage held: while no
write fails, a second session finds in the storage what the first one
holds, and changes nothing there. It finds the same in the file of the
storage, if there is one, opened again. -/
theorem hydrate_run {storage : Storage} {cs : List Change}
    (hc : ∀ c ∈ cs, c.Named)
    (hok : storage.WentWell (hydrationWrites storage
      ++ (hydrate storage).runWrites cs)) :
    hydrate ((hydrate storage).run cs).storage = (hydrate storage).run cs
      ∧ ∀ path store tree, storage = .file store tree →
        FileStore.openAt tree path = .ok store →
        ∃ last tree' reopened,
          ((hydrate storage).run cs).storage = .file last tree'
            ∧ FileStore.openAt tree' path = .ok reopened
            ∧ hydrate (.file reopened tree')
              = (hydrate storage).run cs := by
  obtain ⟨hfirst, hrest⟩ := Storage.wentWell_append.1 hok
  rw [← hydrate_storage] at hrest
  have hlive : ((hydrate storage).run cs).Remembered :=
    (remembered_hydrate hfirst).run hc hrest
  refine ⟨hlive, fun path store tree hfile hopen => ?_⟩
  have hkept : ((hydrate storage).run cs).storage.KeptAt path := by
    rw [run_storage, hydrate_storage]
    exact (Storage.KeptAt.after ⟨store, tree, hfile, hopen⟩ hfirst).after
      (hydrate_storage storage ▸ hrest)
  obtain ⟨last, tree', hlast, hreopened⟩ := hkept
  refine ⟨last, tree', last, hlast, hreopened, ?_⟩
  rw [← hlast]
  exact hlive

/-- A storage whose file is still to be made. -/
def unwritten : Storage := .file ⟨["session.json"], []⟩ .empty

/-- Somebody signs in, and changes to a name that is no plain text. -/
def renamed : List Change :=
  [.establish "t1" ⟨"alice", "admin"⟩,
    .refreshUser "t1" ⟨"ä\n\"lice", "user"⟩]

/-- Somebody signs in on a storage whose file is still to be made, and
the name that is stored last has characters that are escaped. -/
theorem hydrate_run_unwritten :
    ∃ last tree reopened,
      ((hydrate unwritten).run renamed).storage = .file last tree
        ∧ FileStore.openAt tree ["session.json"] = .ok reopened
        ∧ hydrate (.file reopened tree) = (hydrate unwritten).run renamed := by
  have hnamed : ∀ c ∈ renamed, c.Named := by
    intro c hc
    simp only [renamed, List.mem_cons, List.not_mem_nil, or_false] at hc
    rcases hc with rfl | rfl
    · exact (by decide : "t1" ≠ "")
    · trivial
  have hok : unwritten.WentWell (hydrationWrites unwritten
      ++ (hydrate unwritten).runWrites renamed) := by decide +kernel
  exact (hydrate_run hnamed hok).2 _ _ _ rfl rfl

end Session
end SecurityConsole
