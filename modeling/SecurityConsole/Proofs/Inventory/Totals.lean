/-
Counting the assets of a host does not depend on the order of replies.

The seven listings are asked for together, with the token held then, each
for the first asset of the host (`Console.counts_asked`). Whatever comes
back, and in whatever order, the numbers are those that each listing's own
reply gives, and all else that changes can be told from the replies without
their order (`Console.counting_ignores_order`); both follow from what holds
of any calls that are sent together (`Workload.run_batch`).

A token with a control character cannot be sent. Then no listing is asked
for, and all numbers are zero.
-/
import Mathlib.Data.List.Forall2
import SecurityConsole.Proofs.Resource.Ids
import SecurityConsole.Proofs.Run.Batch

namespace SecurityConsole

open Resource
open Url (Address staysSegment endsPlain)

-- ================================================================ requests

namespace Slots

/-- Calls that all have requests are all sent. -/
theorem send_requests {β : Type} {c : Console} {P : β → Request → Prop}
    {bs : List β} {cs : List Call}
    (h : List.Forall₂
      (fun b call => ∃ r, c.request? call = some r ∧ P b r) bs cs) :
    ∀ next, (send next c cs).1.outstanding.map Sent.call = cs
      ∧ List.Forall₂ P bs
        ((send next c cs).1.outstanding.map Sent.request) := by
  induction h with
  | nil => exact fun _ => ⟨rfl, .nil⟩
  | @cons b call bs cs hcall _ ih =>
      intro next
      obtain ⟨r, hr, hP⟩ := hcall
      obtain ⟨hcalls, hrequests⟩ := ih (next + 1)
      rw [send_cons_of_some hr]
      exact ⟨congrArg (call :: ·) hcalls, .cons hP hrequests⟩

/-- Calls of which none has a request are all lost. -/
theorem send_nothing {cs : List Call} : ∀ (next : Nat) (c : Console),
    (∀ call ∈ cs, c.request? call = none) →
      (send next c cs).1.outstanding = [] := by
  induction cs with
  | nil => exact fun _ _ _ => rfl
  | cons call rest ih =>
      intro next c h
      rw [send_cons_of_none (h call List.mem_cons_self)]
      refine ih next _ fun other hother => ?_
      rw [Console.request?_lost]
      exact h other (List.mem_cons_of_mem call hother)

end Slots

namespace Console

/-- The listings that are counted, by the names in their paths. -/
def countedListings : List String :=
  ["processes", "ports", "users", "containers", "software", "services",
    "crons"]

/-- Whether a request asks for the first asset of a host in a listing. -/
structure AsksForOne (c : Console) (root : Address) (host listing : String)
    (r : Request) : Prop where
  method : r.method = .get
  token : r.token = c.session.token?
  body : r.body = none
  target : ∃ query,
    root.LeadsTo r.address ["assets", listing] (some query)
      ∧ Url.Form.decode? query
        = some [("host_id", host), ("page", "1"), ("page_size", "1")]

/-- The texts that the first asset of a host is asked for with. -/
theorem queryTexts?_oneOnHost (host : String) :
    queryTexts? (Endpoint.queryPairs assetQuery (oneOnHost host))
      = some [("host_id", host), ("page", "1"), ("page_size", "1")] := rfl

section
variable {c : Console} {root : Address}

/-- The request for one listing. -/
theorem request?_countCall (hroot : c.Rooted root)
    (htoken : c.session.token?.all (Http.legalHeader ∘ bearer) = true)
    {action path listing : String} {item : Schema} (host : String)
    (hpath : path.toList
      = Url.pathText (["assets", listing].map String.toList))
    (hstays : staysSegment listing.toList = true)
    (hends : endsPlain listing.toList = true) :
    ∃ r, c.request? (countCall action path item host) = some r
      ∧ c.AsksForOne root host listing r := by
  let e := assetListing action path item
  let a : e.Arguments := ⟨(), oneOnHost host, ()⟩
  have hassets : staysSegment "assets".toList = true := by decide +kernel
  obtain ⟨own, hown, hserver, hnone, hspells⟩ :=
    parse?_of_names hroot (by decide) hassets hpath
  have hleads : root.Spells own ["assets", listing] := by
    refine hspells.2 ⟨?_, hends⟩
    exact List.forall_mem_cons.2 ⟨hassets, List.forall_mem_singleton.2 hstays⟩
  let texts := [("host_id", host), ("page", "1"), ("page_size", "1")]
  have hownQuery : ownQuery? e a = some (Url.Form.encode texts) := by
    unfold ownQuery?
    rw [show queryTexts? (Endpoint.queryPairs e.query a.query) = _ from
      queryTexts?_oneOnHost host]
    rfl
  obtain ⟨query, hr, hquery⟩ :=
    request?_of_parse (e := e) (a := a) (by rfl) htoken hown
  exact ⟨_, hr, rfl, rfl, rfl, Url.Form.encode texts,
    ⟨hserver, hleads.congr rfl, (hquery (hnone hleads)).trans hownQuery⟩,
    Url.Form.decode?_encode texts⟩

/-- All listings are asked for. -/
theorem counts_asked (hroot : c.Rooted root)
    (htoken : c.session.token?.all (Http.legalHeader ∘ bearer) = true)
    (host : String) :
    List.Forall₂ (fun listing call => ∃ r, c.request? call = some r
      ∧ c.AsksForOne root host listing r)
      countedListings (countCalls host) := by
  unfold countedListings countCalls
  iterate 7
    refine .cons (request?_countCall hroot htoken host (by decide +kernel)
      (by decide +kernel) (by decide +kernel)) ?_
  exact .nil

/-- Each of the calls has a request. -/
theorem request?_of_mem_countCalls (hroot : c.Rooted root)
    (htoken : c.session.token?.all (Http.legalHeader ∘ bearer) = true)
    {host : String} {call : Call} (h : call ∈ countCalls host) :
    ∃ r, c.request? call = some r := by
  have hall : List.Forall₂
      (fun call _ => (∃ r, c.request? call = some r) ∧ True)
      (countCalls host) countedListings :=
    .flip ((counts_asked hroot htoken host).imp
      fun _ _ ⟨r, hr, _⟩ => ⟨⟨r, hr⟩, trivial⟩)
  exact ((List.forall₂_and_left _ _).1 hall).1 call h

end

-- ================================================================= totals

/-- The total of a listing, by what is heard of it: that of the page, or
zero if there is no page. -/
def totalHeard (heard : Call → Reply) (action path : String)
    (item : Schema) (host : String) : Int :=
  match Verdict.ofReply (countCall action path item host)
      (heard (countCall action path item host)) with
  | .answered (total, _) => total.1
  | .failed .. | .refused _ => 0

/-- The numbers of assets, each by what is heard of its listing. -/
def countsHeard (host : String) (heard : Call → Reply) : AssetCounts :=
  { processes :=
      totalHeard heard "processes" "/assets/processes" process host
    ports := totalHeard heard "ports" "/assets/ports" port host
    users := totalHeard heard "users" "/assets/users" assetUser host
    containers :=
      totalHeard heard "containers" "/assets/containers" container host
    packages := totalHeard heard "software" "/assets/software" software host
    services := totalHeard heard "services" "/assets/services" service host
    cron := totalHeard heard "crons" "/assets/crons" cron host }

theorem totalOf_outcome (heard : Call → Reply) (action path : String)
    (item : Schema) (host : String) (token : Option String) :
    totalOf item ((countCall action path item host).outcome token
        (heard (countCall action path item host)))
      = totalHeard heard action path item host := by
  unfold Call.outcome totalHeard
  cases hv : Verdict.ofReply (countCall action path item host)
      (heard (countCall action path item host)) with
  | answered value =>
      rw [settle_of_answered default hv]
      rfl
  | failed error text =>
      rw [settle_of_failed default hv]
      rfl
  | refused message =>
      cases token with
      | none =>
          rw [settle_of_refused_bare default hv]
          rfl
      | some t =>
          rw [settle_of_refused_token default hv]
          rfl

/-- What is made of the outcomes: each listing counts for its own
number. -/
theorem countsOf_outcomes (host : String) (heard : Call → Reply)
    (token : Option String) :
    countsOf host (Answers.of (fun call => call.outcome token (heard call))
        (countCalls host))
      = countsHeard host heard := by
  simp only [countsHeard, ← totalOf_outcome _ _ _ _ _ token]
  rfl

-- ============================================================== any order

/-- What counting the assets of a host has led to, given what was heard of
the listings. -/
structure Counts (c : Console) (name host : String) (heard : Call → Reply)
    (v : Workload Report) : Prop where
  result : v.jobs
    = [(name, .ended ⟨.countAssets host, countsHeard host heard⟩)]
  settled : Settles c v.console
    ((countCalls host).map fun call => ⟨call, c.session.token?, heard call⟩)
  /-- However many listings refuse the token held, the session ends
  once. -/
  expired : c.session.token?.isSome = true →
    (∃ call ∈ countCalls host, (heard call).refuses = true) →
      v.console.session = c.session.teardown
        ∧ v.console.visits = c.visits ++ [Route.loginPath]
        ∧ v.console.notices.countP (·.level = .warning)
          = c.notices.countP (·.level = .warning) + 1

/-- One reply that refuses the token held is enough to end the session. -/
theorem expiresBy_of_refuses {c : Console} {heard : Call → Reply}
    {cs : List Call} (hheld : c.session.token?.isSome = true)
    (h : ∃ call ∈ cs, (heard call).refuses = true) :
    c.expiresBy (cs.map fun call => ⟨call, c.session.token?, heard call⟩)
      = true := by
  obtain ⟨t, ht⟩ := Option.isSome_iff_exists.1 hheld
  obtain ⟨call, hcall, hrefuses⟩ := h
  refine List.any_eq_true.2 ⟨_, List.mem_map.2 ⟨call, hcall, rfl⟩, ?_⟩
  show c.endsBy c.session.token? (heard call) = true
  rw [endsBy_of_refuses c hrefuses, ht, Option.any_some]
  exact Session.holds_iff.2 ht

theorem Counts.of_settles {c : Console} {name host : String}
    {heard : Call → Reply} {v : Workload Report}
    (hresult : v.jobs
      = [(name, .ended ⟨.countAssets host, countsHeard host heard⟩)])
    (hsettled : Settles c v.console ((countCalls host).map
      fun call => ⟨call, c.session.token?, heard call⟩)) :
    Counts c name host heard v := by
  refine ⟨hresult, hsettled, fun hheld h => ?_⟩
  have hexpires := expiresBy_of_refuses hheld h
  have hwarnings := hsettled.warnings
  have hsession := hsettled.session
  have hvisits := hsettled.visits
  rw [hexpires] at hwarnings hsession hvisits
  exact ⟨hsession, hvisits, hwarnings⟩

/-- Counting the assets of a host does not depend on the order of replies.

With a token that can be sent, or without one, just seven requests are
sent, one for each listing, with this token, and with the host and one
asset to a page as all that they ask with. Whatever the replies and their
order, each number is the total of the page that its own listing answers
with, and zero if it answers with none; and the console is left the same,
but for the order of notices and counters. If one of the replies refuses a
token, the session ends just once. With a token that cannot be sent, all
listings are lost. -/
theorem counting_ignores_order {c : Console} {root : Address}
    (hroot : c.Rooted root) (host name : String) :
    let sendable := c.session.token?.all (Http.legalHeader ∘ bearer)
    let first : Move := .begin name (.countAssets host)
    let sent := ((Workload.idle c).run [first]).outstanding
    (sendable = true →
        sent.map Sent.call = countCalls host
          ∧ List.Forall₂ (c.AsksForOne root host) countedListings
            (sent.map Sent.request))
      ∧ (sendable = false → sent = [])
      ∧ ∀ (ρ : Call → Reply) (order : List Sent), order.Perm sent →
        let ms := first :: order.map (Sent.replied ρ)
        let v := (Workload.idle c).run ms
        ((Workload.idle c).trail ms).filterMap Happening.sent? = sent
          ∧ Counts c name host
            (fun call => if sendable then ρ call else .lost) v
          ∧ ∀ other : List Sent, other.Perm sent →
            let u := (Workload.idle c).run
              (first :: other.map (Sent.replied ρ))
            u.jobs = v.jobs ∧ v.console.SameInSum u.console := by
  intro sendable first sent
  let slots := (Slots.send 0 c (countCalls host)).1
  have hjob : (Task.countAssets host).job
      = .calls (countCalls host)
          fun as => .done ⟨.countAssets host, countsOf host as⟩ := rfl
  have hsent : sent = slots.outstanding :=
    Workload.outstanding_batch c name hjob
  refine ⟨fun htoken => ?_, fun htoken => ?_, fun ρ order horder => ?_⟩
  · rw [hsent]
    exact Slots.send_requests (counts_asked hroot htoken host) 0
  · rw [hsent]
    exact Slots.send_nothing 0 c fun call _ =>
      request?_of_unwritable htoken call
  · intro ms v
    -- whether they are sent or lost is the same for all seven
    let heard : Call → Reply := fun call => if sendable then ρ call else .lost
    have hheard : ∀ call ∈ countCalls host, c.heard ρ call = heard call := by
      intro call hcall
      show _ = if sendable then ρ call else .lost
      cases htoken : sendable with
      | true =>
          obtain ⟨r, hr⟩ := request?_of_mem_countCalls hroot htoken hcall
          exact heard_of_some hr
      | false => exact heard_of_none (request?_of_unwritable htoken call)
    obtain ⟨hjobs, htrail, hsettles⟩ :=
      Workload.run_batch ρ c name hjob horder
    refine ⟨htrail, ?_, fun other hother => ?_⟩
    · refine .of_settles ?_ ?_
      · rw [← countsOf_outcomes host heard c.session.token?,
          ← Answers.of_congr fun call hcall => congrArg _ (hheard call hcall)]
        exact hjobs
      · have hsame : (countCalls host).map (c.settlement ρ)
            = (countCalls host).map
                fun call => ⟨call, c.session.token?, heard call⟩ :=
          List.map_congr_left fun call hcall =>
            congrArg (Settlement.mk call c.session.token?) (hheard call hcall)
        rw [← hsame]
        exact hsettles
    · obtain ⟨hjobs', -, hsettles'⟩ :=
        Workload.run_batch ρ c name hjob hother
      exact ⟨hjobs'.trans hjobs.symm, hsettles.sameInSum hsettles'⟩

-- ============================================================== examples

/-- A console whose token is held in memory only. -/
def holding (token : String) : Console :=
  { Console.start "http://localhost/api/v1" default with
    session := ⟨⟨some token, none⟩, default⟩ }

/-- A server that has twelve processes, refuses to list the ports, and
loses all else. -/
def twelveProcesses (call : Call) : Reply :=
  if call.path = "/assets/processes" then
    .response 200 (Text.encode
      "\x7b\"code\":0,\"data\":\x7b\"total\":12,\"items\":[]\x7d\x7d")
  else if call.path = "/assets/ports" then .response 401 []
  else .lost

/-- A token with a line end: nothing is asked, and everything counts as
zero. -/
theorem line_end_asks_nothing :
    let c := holding "a\nb"
    let ms : List Move := [.begin "count" (.countAssets "h1")]
    c.session.token? = some "a\nb"
      ∧ ((Workload.idle c).trail ms).filterMap Happening.sent? = []
      ∧ ((Workload.idle c).run ms).jobs
        = [("count", .ended
            ⟨.countAssets "h1", ⟨0, 0, 0, 0, 0, 0, 0⟩⟩)] := by
  intro c ms
  have htoken : c.session.token?.all (Http.legalHeader ∘ bearer) = false := by
    decide +kernel
  have hjob : (Task.countAssets "h1").job
      = .calls (countCalls "h1")
          fun as => .done ⟨.countAssets "h1", countsOf "h1" as⟩ := rfl
  have hsent : ((Workload.idle c).run ms).outstanding = [] :=
    (Workload.outstanding_batch c "count" hjob).trans
      (Slots.send_nothing 0 c fun call _ =>
        request?_of_unwritable htoken call)
  have hnone :
      ([] : List Sent).Perm ((Workload.idle c).run ms).outstanding := by
    rw [hsent]
  obtain ⟨hjobs, htrail, -⟩ :=
    Workload.run_batch (fun _ => .lost) c "count" hjob hnone
  refine ⟨rfl, htrail.trans hsent, hjobs.trans ?_⟩
  have hlost : c.heard (fun _ => .lost) = fun _ => .lost :=
    funext fun call => heard_of_none (request?_of_unwritable htoken call)
  rw [countsOf_outcomes, hlost]
  rfl

/-- The replies come from the last request to the first. One refuses the
token; the processes count all the same. -/
theorem refused_ports_leave_processes :
    let c := holding "t1"
    let first : Move := .begin "count" (.countAssets "h1")
    let sent := ((Workload.idle c).run [first]).outstanding
    let v := (Workload.idle c).run
      (first :: sent.reverse.map (Sent.replied twelveProcesses))
    c.Rooted sharedRoot
      ∧ v.jobs = [("count", .ended
          ⟨.countAssets "h1", ⟨12, 0, 0, 0, 0, 0, 0⟩⟩)]
      ∧ v.console.visits = ["/login"]
      ∧ v.console.notices.countP (·.level = .warning) = 1 := by
  intro c first sent v
  have hroot : c.Rooted sharedRoot :=
    ⟨rooted_start.plain, rooted_start.directory⟩
  let heard : Call → Reply := fun call =>
    if c.session.token?.all (Http.legalHeader ∘ bearer)
    then twelveProcesses call else .lost
  have hcounts : Counts c "count" "h1" heard v :=
    ((counting_ignores_order hroot "h1" "count").2.2
      twelveProcesses sent.reverse (List.reverse_perm sent)).2.1
  have hrefuses : ∃ call ∈ countCalls "h1", (heard call).refuses = true :=
    ⟨countCall "ports" "/assets/ports" port "h1",
      List.mem_cons_of_mem _ List.mem_cons_self, by decide +kernel⟩
  obtain ⟨-, hvisits, hwarnings⟩ := hcounts.expired rfl hrefuses
  have htotals : countsHeard "h1" heard = ⟨12, 0, 0, 0, 0, 0, 0⟩ := by
    decide +kernel
  have hresult := hcounts.result
  rw [htotals] at hresult
  exact ⟨hroot, hresult, hvisits, hwarnings⟩

end Console
end SecurityConsole
