/-
How a call is sent.

Its address is that of its path, with the pairs of the query behind those
that the path brings along (`Console.address?_pairs`); its request has this
address, the token of the session, and the body of the call
(`Console.request?_parts`, `Console.request?_of_address`), and is sent if
these can be written (`Console.request?_isSome_iff`).
-/
import SecurityConsole.Console.Transport
import SecurityConsole.Proofs.Url.Form

namespace SecurityConsole

open Resource
open Url (Address)

namespace Console

/-- The address of a call is a matter of its path and its query. -/
theorem address?_congr (c : Console) {call other : Call}
    (hpath : call.path = other.path) (hquery : call.query = other.query) :
    c.address? call = c.address? other := by
  unfold address?
  rw [hpath, hquery]

/-- The request of a call whose address can be written. -/
theorem request?_of_address {c : Console} {call : Call} {address : Address}
    (htoken : c.session.token?.all (Http.legalHeader ∘ bearer) = true)
    (h : c.address? call = some address) :
    c.request? call
      = some ⟨call.method, address, c.session.token?, call.body⟩ := by
  unfold request?
  rw [h]
  exact if_pos htoken

/-- A request is sent if its address and its token can be written. -/
theorem request?_isSome_iff {c : Console} {call : Call} :
    (c.request? call).isSome = true
      ↔ (c.address? call).isSome = true
        ∧ c.session.token?.all (Http.legalHeader ∘ bearer) = true := by
  unfold request?
  cases c.address? call with
  | none => exact ⟨nofun, fun h => absurd h.1 Bool.false_ne_true⟩
  | some address =>
      cases c.session.token?.all (Http.legalHeader ∘ bearer) with
      | true => exact ⟨fun _ => ⟨rfl, rfl⟩, fun _ => rfl⟩
      | false => exact ⟨nofun, fun h => absurd h.2 Bool.false_ne_true⟩

/-- With a token that cannot be written, nothing is sent. -/
theorem request?_of_unwritable {c : Console}
    (htoken : c.session.token?.all (Http.legalHeader ∘ bearer) = false)
    (call : Call) : c.request? call = none := by
  refine Option.eq_none_iff_forall_ne_some.2 fun r hr => ?_
  have hsome : (c.request? call).isSome = true := by
    rw [hr]
    rfl
  have hlegal := (request?_isSome_iff.1 hsome).2
  rw [htoken] at hlegal
  cases hlegal

/-- Pairs that have texts can be asked with. -/
theorem queryTexts?_isSome {pairs : List (String × Json)}
    (h : ∀ p ∈ pairs, (scalarText? p.2).isSome = true) :
    ∃ texts, queryTexts? pairs = some texts := by
  induction pairs with
  | nil => exact ⟨[], rfl⟩
  | cons p pairs ih =>
      obtain ⟨text, htext⟩ :=
        Option.isSome_iff_exists.1 (h p List.mem_cons_self)
      obtain ⟨texts, htexts⟩ :=
        ih fun q hq => h q (List.mem_cons_of_mem p hq)
      refine ⟨(p.1, text) :: texts, ?_⟩
      unfold queryTexts? at htexts ⊢
      rw [List.mapM_cons, htext, htexts]
      rfl

section
variable {e : Endpoint} {a : e.Arguments} {c : Console}

/-- What a request is made of. -/
theorem request?_parts {call : Call} {request : Request}
    (h : c.request? call = some request) :
    c.address? call = some request.address ∧ request.body = call.body := by
  unfold request? at h
  cases haddress : c.address? call with
  | none => rw [haddress] at h; cases h
  | some address =>
      rw [haddress] at h
      simp only at h
      split at h
      · cases h
        exact ⟨rfl, rfl⟩
      · cases h

/-- The query of a call: none, if the endpoint takes no parameters. -/
theorem call_query (e : Endpoint) (a : e.Arguments) :
    (e.call a).query = none ∧ Endpoint.queryPairs e.query a.query = []
      ∨ (e.call a).query = some (Endpoint.queryPairs e.query a.query) := by
  obtain ⟨group, action, method, path, query, body, rules, answer⟩ := e
  cases query with
  | nil => exact .inl ⟨rfl, rfl⟩
  | cons name rule value rest => exact .inr rfl

/-- The pairs that a request asks with: those that its path brings along,
and those of the parameters. -/
theorem address?_pairs {address : Url.Address}
    (h : c.address? (e.call a) = some address) :
    ∃ own texts,
      Url.Address.parse? (Url.joinPath c.baseUrl (e.path.render a.path))
          = some own
        ∧ queryTexts? (Endpoint.queryPairs e.query a.query) = some texts
        ∧ Url.Form.decode? (address.query.getD "")
          = (Url.Form.decode? (own.query.getD "")).map (· ++ texts) := by
  unfold address? at h
  cases hown : Url.Address.parse?
      (Url.joinPath c.baseUrl (e.path.render a.path)) with
  | none =>
      rw [show (e.call a).path = e.path.render a.path from rfl, hown] at h
      cases h
  | some own =>
      rw [show (e.call a).path = e.path.render a.path from rfl, hown] at h
      rcases call_query e a with ⟨hnone, hpairs⟩ | hsome
      · rw [hnone] at h
        cases h
        refine ⟨address, [], rfl, ?_, ?_⟩
        · rw [hpairs]
          rfl
        · simp
      · rw [hsome] at h
        obtain ⟨texts, htexts, rfl⟩ := Option.map_eq_some_iff.1 h
        refine ⟨own, texts, rfl, htexts, ?_⟩
        have hdecode := Url.Form.decode?_appendPairs texts
          (own.query.getD "").toList
        rw [String.ofList_toList] at hdecode
        rw [← hdecode]
        unfold Url.Address.withPairs
        simp only
        split
        · rename_i hempty
          rw [List.isEmpty_iff.1 hempty]
          rfl
        · rfl

end
end Console
end SecurityConsole
