/-
What is not set is not sent.

A query holds just the pairs of each parameter, none for one that is unset
(`Fields.Asked`, `Fields.asked_queryPairs`), and the pairs of a query are
read back from the address of the request behind those that its path
brings along (`Console.address?_pairs`). A body tells just what is set
(`Schema.Told`), if its schema is sparing. All are, but for one: an alert
that is resolved without a reason is sent with the reason `null`
(`sparing_or_resolve`, `Console.request_tells_set`).
-/
import SecurityConsole.Resource.Catalog
import SecurityConsole.Proofs.Resource.Query
import SecurityConsole.Proofs.Schema.Told
import SecurityConsole.Proofs.Transport.Sending

namespace SecurityConsole

open Resource

-- ================================================================= bodies

namespace Resource

theorem resolveAlert_mem : resolveAlert ∈ endpoints := by
  simp [endpoints, alerts]

/-- All other endpoints send sparing bodies, and no query has two
parameters of one name. -/
theorem sparing_or_resolve : ∀ e ∈ endpoints, e.query.keys.Nodup
    ∧ (e.name ≠ "alerts.resolve" ∧ e.body.fields.sparing = true
      ∨ e.name = "alerts.resolve" ∧ e.body = resolveBody) := by
  have hothers : ∀ e ∈ assets ++ (auth ++ (businessLines ++ (components
      ++ (dashboard ++ (fix ++ (hosts ++ (notifications ++ (policies
      ++ (policyGroups ++ (rules ++ (systemConfig ++ (tasks
      ++ users)))))))))))), e.query.keys.Nodup
        ∧ e.name ≠ "alerts.resolve" ∧ e.body.fields.sparing = true := by
    decide +kernel
  have halerts : ∀ e ∈ alerts, e.query.keys.Nodup
      ∧ (e.name ≠ "alerts.resolve" ∧ e.body.fields.sparing = true
        ∨ e.name = "alerts.resolve" ∧ e.body = resolveBody) := by
    intro e he
    simp only [alerts, List.mem_cons, List.not_mem_nil, or_false] at he
    rcases he with rfl | rfl | rfl | rfl | rfl
    · exact ⟨by decide +kernel, .inl (by decide +kernel)⟩
    · exact ⟨by decide +kernel, .inl (by decide +kernel)⟩
    · exact ⟨by decide +kernel, .inl (by decide +kernel)⟩
    · exact ⟨by decide +kernel, .inr ⟨by decide +kernel, rfl⟩⟩
    · exact ⟨by decide +kernel, .inl (by decide +kernel)⟩
  intro e he
  simp only [endpoints, List.append_assoc] at he
  rcases List.mem_append.1 he with he | he
  · exact halerts e he
  · obtain ⟨hkeys, hother⟩ := hothers e he
    exact ⟨hkeys, .inl hother⟩

/-- The body of a request, if the endpoint takes one, tells just what is
set. -/
def Endpoint.TellsSet (e : Endpoint) (a : e.Arguments) : Option Json → Prop
  | none => e.body.isAbsent = true
  | some body => e.body.isAbsent = false
    ∧ (Schema.record false e.body.fields).Told a.body body

/-- A sparing body tells what is set. -/
theorem Endpoint.tellsSet_of_sparing {e : Endpoint} (a : e.Arguments)
    (h : e.body.fields.sparing = true) : e.TellsSet a (e.bodyJson a) := by
  unfold bodyJson
  cases habsent : e.body.isAbsent with
  | true => exact habsent
  | false =>
      exact ⟨habsent, Schema.told_encode (.record false e.body.fields) h
        a.body fun ho => absurd ho Bool.false_ne_true⟩

/-- An alert that is resolved without a reason is sent with a reason all
the same. -/
theorem Endpoint.tellsSet_resolve {e : Endpoint} (a : e.Arguments)
    (h : e.body = resolveBody) :
    e.TellsSet a (e.bodyJson a)
      ↔ e.bodyJson a ≠ some (.obj [("reason", .null)]) := by
  obtain ⟨group, action, method, path, query, body, rules, answer⟩ := e
  obtain rfl : body = resolveBody := h
  obtain ⟨_, _, reason, _⟩ := a
  cases reason with
  | none =>
      refine ⟨?_, fun hne => absurd rfl hne⟩
      rintro ⟨-, members, hmembers, -, -, hreason, -⟩
      obtain rfl : [("reason", Json.null)] = members := Json.obj.inj hmembers
      cases hreason.1
  | some text =>
      refine ⟨fun _ heq => ?_, fun _ => ⟨rfl, [("reason", .str text)], rfl,
        List.nodup_cons.2 ⟨List.not_mem_nil, List.nodup_nil⟩, ?_,
        ⟨rfl, text, rfl, rfl⟩, trivial⟩⟩
      · cases heq
      · intro m hm
        rw [List.mem_singleton.1 hm]
        exact List.mem_cons_self

end Resource

/-- What is not set is not sent, but for the reason of a resolved alert.

Whatever an endpoint is called with: the pairs of the query that the
request asks with are those that its path brings along, and behind them
just those of the parameters that are set. If the endpoint takes a body,
the request has one, and it tells just what is set, at any depth; unless an
alert is resolved without a reason, which is sent with the reason
`null`. -/
theorem Console.request_tells_set {e : Endpoint} (he : e ∈ endpoints)
    (a : e.Arguments) {c : Console} {request : Request}
    (hr : c.request? (e.call a) = some request) :
    (∃ own texts,
      Url.Address.parse? (Url.joinPath c.baseUrl (e.path.render a.path))
          = some own
        ∧ queryTexts? (Endpoint.queryPairs e.query a.query) = some texts
        ∧ Url.Form.decode? (request.address.query.getD "")
          = (Url.Form.decode? (own.query.getD "")).map (· ++ texts)
        ∧ e.query.Asked a.query (Endpoint.queryPairs e.query a.query)
        ∧ ∀ p ∈ Endpoint.queryPairs e.query a.query, p.1 ∈ e.query.keys)
      ∧ (e.TellsSet a request.body
        ↔ ¬ (e.name = "alerts.resolve"
          ∧ request.body = some (.obj [("reason", .null)]))) := by
  obtain ⟨haddress, hbody⟩ := request?_parts hr
  have hbody : request.body = e.bodyJson a := hbody
  obtain ⟨hkeys, hbodies⟩ := sparing_or_resolve e he
  refine ⟨?_, ?_⟩
  · obtain ⟨own, texts, hown, htexts, hdecode⟩ := address?_pairs haddress
    exact ⟨own, texts, hown, htexts, hdecode,
      Fields.asked_queryPairs hkeys a.query,
      fun p hp => Fields.key_of_mem_queryPairs hp⟩
  · rw [hbody]
    rcases hbodies with ⟨hne, hsparing⟩ | ⟨hname, hresolve⟩
    · exact ⟨fun _ h => hne h.1,
        fun _ => Endpoint.tellsSet_of_sparing a hsparing⟩
    · rw [Endpoint.tellsSet_resolve a hresolve]
      exact ⟨fun h k => h k.2, fun h k => h ⟨hname, k⟩⟩

/-- The request that resolves an alert without a reason. -/
theorem Console.resolve_sends_null :
    let a : resolveAlert.Arguments := ⟨(⟨7, by decide⟩, ()), (), (none, ())⟩
    let c := Console.start "http://localhost" default
    ∃ request, c.request? (resolveAlert.call a) = some request
      ∧ request.body = some (.obj [("reason", .null)])
      ∧ ¬ resolveAlert.TellsSet a request.body := by
  intro a c
  have hsome : (c.request? (resolveAlert.call a)).isSome = true := by
    decide +kernel
  obtain ⟨request, hr⟩ := Option.isSome_iff_exists.1 hsome
  have hbody : request.body = some (.obj [("reason", .null)]) :=
    (Console.request?_parts hr).2
  have htold := (Console.request_tells_set resolveAlert_mem a hr).2
  refine ⟨request, hr, hbody, fun h => htold.1 h ⟨?_, hbody⟩⟩
  decide +kernel

end SecurityConsole
