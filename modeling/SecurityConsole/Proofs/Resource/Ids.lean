/-
When an id addresses what it names.

Ids are put into paths as they are. The path of an endpoint that takes a
text as id is put together from the name of a collection, the id, and
perhaps the name of an action (`Template.joined_of_textId?`); so its
request leads to just that collection, id and action if and only if the id
stays one segment (`Console.id_stays_iff`). A host whose id walks up the
path is deleted in the place of a user (`Console.host_deletes_user`).
-/
import SecurityConsole.Resource.Catalog
import SecurityConsole.Proofs.Resource.Query
import SecurityConsole.Proofs.Transport.Sending
import SecurityConsole.Proofs.Url.Target

namespace SecurityConsole

open Resource
open Url (Address pathText staysSegment endsPlain)

-- ================================================================== paths

namespace Resource.Template

/-- The names in a fixed text of a path. -/
def fixedNames (text : String) : List String :=
  ((Text.cutAt (· = '/') text.toList).filter (!·.isEmpty)).map String.ofList

/-- The names that a path is meant to spell: those of its fixed texts, and
what fills each slot as one. -/
def named : (t : Template) → t.Value → List String
  | .tail text, _ => fixedNames text
  | .slot text _ value rest, (v, r) =>
    fixedNames text ++ (scalarText? (value.encode v)).getD "" :: rest.named r

/-- The id in a path whose one slot takes a text. -/
def textId? : (t : Template) → t.Value → Option String
  | .slot _ _ .text (.tail _), (id, _) => some id
  | _, _ => none

/-- Whether nothing stands behind the last slot. -/
def endsInSlot : Template → Bool
  | .tail text => text.toList.isEmpty
  | .slot _ _ _ rest => rest.endsInSlot

/-- Whether an id stays what it is in a path: one segment, and not cut at
its end if it ends the path. -/
def keeps (t : Template) (id : String) : Bool :=
  staysSegment id.toList && (!t.endsInSlot || endsPlain id.toList)

/-- Whether a path that takes a text is put together from the name of a
collection, the id, and names that stay what they are. -/
def joined : Template → Bool
  | .slot text _ .text (.tail behind) =>
    match fixedNames text with
    | [collection] =>
      collection ≠ "" && text.toList = '/' :: (collection.toList ++ ['/'])
        && behind.toList = pathText ((fixedNames behind).map String.toList)
        && (collection :: fixedNames behind).all fun name =>
          staysSegment name.toList && endsPlain name.toList
    | _ => false
  | _ => true

/-- A path that takes a text spells a collection, the id, and perhaps an
action; and it keeps the id just when all names stay what they are. -/
theorem joined_of_textId? : ∀ {t : Template} {v : t.Value} {id : String},
    t.joined = true → t.textId? v = some id →
      ∃ collection actions, collection ≠ ""
        ∧ staysSegment collection.toList = true
        ∧ t.named v = collection :: id :: actions
        ∧ (t.render v).toList
          = pathText ((collection :: id :: actions).map String.toList)
        ∧ (t.keeps id = true
          ↔ (∀ name ∈ collection :: id :: actions,
              staysSegment name.toList = true)
            ∧ endsPlain ((collection :: id :: actions).getLast
              (List.cons_ne_nil _ _)).toList = true)
  | .slot text name .text (.tail behind), (own, ()), id, hjoined, hid => by
      obtain rfl : id = own := (Option.some.inj hid).symm
      unfold joined at hjoined
      simp only at hjoined
      split at hjoined
      · rename_i collection hnames
        simp only [Bool.and_eq_true, decide_eq_true_eq, List.all_cons]
          at hjoined
        obtain ⟨⟨⟨hne, htext⟩, hbehind⟩, ⟨hcollection, -⟩, hactions⟩ := hjoined
        refine ⟨collection, fixedNames behind, hne, hcollection, ?_, ?_, ?_⟩
        · show fixedNames text ++ _ = _
          rw [hnames]
          rfl
        · show (text ++ id ++ behind).toList = _
          rw [String.toList_append, String.toList_append, htext, hbehind]
          simp [Url.pathText]
        · -- the id ends the path just when no action follows it
          have hactions := List.all_eq_true.1 hactions
          unfold keeps endsInSlot endsInSlot
          rw [hbehind]
          cases hlist : fixedNames behind with
          | nil => simp [hcollection, Url.pathText]
          | cons action actions =>
              rw [hlist] at hactions
              have hlast : endsPlain ((action :: actions).getLast
                  (List.cons_ne_nil _ _)).toList = true :=
                (Bool.and_eq_true_iff.1 (hactions _ (List.getLast_mem _))).2
              have hstay : ∀ name ∈ action :: actions,
                  staysSegment name.toList = true :=
                fun name hname =>
                  (Bool.and_eq_true_iff.1 (hactions name hname)).1
              constructor
              · intro hid
                refine ⟨?_, hlast⟩
                exact List.forall_mem_cons.2 ⟨hcollection,
                  List.forall_mem_cons.2
                    ⟨(Bool.and_eq_true_iff.1 hid).1, hstay⟩⟩
              · rintro ⟨hall, -⟩
                rw [hall id (List.mem_cons_of_mem _ List.mem_cons_self)]
                rfl
      · cases hjoined

end Resource.Template

-- =============================================================== addresses

/-- Whether an address leads to what names spell behind a directory: the
server is the same, each name is one segment, and there is no other query
than the given one. -/
structure Url.Address.LeadsTo (root a : Address) (names : List String)
    (query : Option String) : Prop where
  server : a.secure = root.secure ∧ a.host = root.host ∧ a.port = root.port
  path : root.Spells a names
  query : a.query = query

namespace Console

/-- Whether the paths of a console are joined to a directory: no query and
no fragment begins before. -/
structure Rooted (c : Console) (root : Address) : Prop where
  plain : ∀ x ∈ c.baseUrl.toList, Url.endsPath x = false
  directory : Address.parse? (c.baseUrl ++ "/") = some root

/-- The query that an endpoint asks with: none without pairs. -/
def ownQuery? (e : Endpoint) (a : e.Arguments) : Option String :=
  match queryTexts? (Endpoint.queryPairs e.query a.query) with
  | some texts => Url.Form.query? texts
  | none => none

/-- The request of a call whose path can be read: it is sent to where the
path leads, and asks with what the endpoint asks with. -/
theorem request?_of_parse {c : Console} {e : Endpoint} {a : e.Arguments}
    {own : Address} (hquery : e.query.areAskable = true)
    (htoken : c.session.token?.all (Http.legalHeader ∘ bearer) = true)
    (hown : Address.parse? (Url.joinPath c.baseUrl (e.path.render a.path))
      = some own) :
    ∃ query, c.request? (e.call a)
        = some ⟨e.method, { own with query }, c.session.token?, e.bodyJson a⟩
      ∧ (own.query = none → query = ownQuery? e a) := by
  obtain ⟨texts, htexts⟩ := queryTexts?_isSome
    fun p (hp : p ∈ Endpoint.queryPairs e.query a.query) =>
      Fields.scalarText?_of_mem_queryPairs hquery hp
  have haddress : ∃ query, c.address? (e.call a) = some { own with query }
      ∧ (own.query = none → query = ownQuery? e a) := by
    unfold address?
    rw [show (e.call a).path = e.path.render a.path from rfl, hown]
    rcases call_query e a with ⟨hnone, hpairs⟩ | hsome
    · rw [hnone]
      refine ⟨own.query, rfl, fun hq => ?_⟩
      rw [hq, ownQuery?, hpairs]
      rfl
    · rw [hsome]
      refine ⟨(own.withPairs texts).query, ?_, fun hq => ?_⟩
      · show Option.map own.withPairs (queryTexts? _) = _
        rw [htexts]
        rfl
      · rw [ownQuery?, htexts]
        exact Url.Form.query_withPairs hq texts
  obtain ⟨query, haddress, hasked⟩ := haddress
  exact ⟨query, request?_of_address htoken haddress, hasked⟩

/-- The slash in front of a name is all that is trimmed. -/
theorem trimStart_of_name {name : String} {t : List Char} (hne : name ≠ "")
    (h : ∀ x ∈ name.toList, Url.isSlash x = false ∧ Url.endsPath x = false
      ∧ Url.isBreak x = false) :
    Url.trimStart ('/' :: (name.toList ++ t)) = name.toList ++ t := by
  cases hname : name.toList with
  | nil => exact absurd (String.toList_eq_nil_iff.1 hname) hne
  | cons x rest =>
      have hx : x ≠ '/' := by
        rintro rfl
        have hslash := (h '/' (by rw [hname]; exact List.mem_cons_self)).1
        cases hslash
      simp [Url.trimStart, hx]

/-- Where a path leads that is put together from names: into the directory
of the console, to just these names if they stay segments. -/
theorem parse?_of_names {c : Console} {root : Address} (hroot : c.Rooted root)
    {path collection : String} {names : List String} (hne : collection ≠ "")
    (hcollection : staysSegment collection.toList = true)
    (hpath : path.toList
      = pathText ((collection :: names).map String.toList)) :
    ∃ own, Address.parse? (Url.joinPath c.baseUrl path) = some own
      ∧ (own.secure = root.secure ∧ own.host = root.host
        ∧ own.port = root.port)
      ∧ (root.Spells own (collection :: names) → own.query = none)
      ∧ (root.Spells own (collection :: names)
        ↔ (∀ name ∈ collection :: names, staysSegment name.toList = true)
          ∧ endsPlain ((collection :: names).getLast
            (List.cons_ne_nil _ _)).toList = true) := by
  let t := collection.toList ++ pathText (names.map String.toList)
  have hjoin : Url.joinPath c.baseUrl path
      = String.ofList (c.baseUrl.toList ++ '/' :: t) := by
    have htext : path.toList = '/' :: t := hpath
    rw [Url.joinPath, htext,
      trimStart_of_name hne (Url.staysSegment_iff.1 hcollection).1]
  refine ⟨root.child (Url.cleanedEnd t), ?_, ⟨rfl, rfl, rfl⟩, fun h => ?_,
    Address.child_spells_iff root collection names⟩
  · rw [hjoin]
    exact Address.parse?_append hroot.plain hroot.directory t
  · have hkept := (Address.kept_of_spells rfl h).1
    exact (Address.child_of_kept root hkept).2

/-- Where the path of an endpoint leads that takes a text: into the
directory of the console. -/
theorem parse?_of_textId? {c : Console} {root : Address} {e : Endpoint}
    {a : e.Arguments} {id : String} (hroot : c.Rooted root)
    (hjoined : e.path.joined = true)
    (hid : e.path.textId? a.path = some id) :
    ∃ own, Address.parse? (Url.joinPath c.baseUrl (e.path.render a.path))
        = some own
      ∧ (own.secure = root.secure ∧ own.host = root.host
        ∧ own.port = root.port)
      ∧ (e.path.keeps id = true → own.query = none)
      ∧ (root.Spells own (e.path.named a.path)
        ↔ e.path.keeps id = true) := by
  obtain ⟨collection, actions, hne, hcollection, hnamed, hrender, hkeeps⟩ :=
    Template.joined_of_textId? hjoined hid
  obtain ⟨own, hown, hserver, hnone, hspells⟩ :=
    parse?_of_names hroot hne hcollection hrender
  rw [hnamed, hkeeps]
  exact ⟨own, hown, hserver, fun h => hnone (hspells.2 h), hspells⟩

theorem joined_endpoints : ∀ e ∈ endpoints,
    e.path.joined = true ∧ e.query.areAskable = true := by
  decide +kernel

/-- The request for a text as id. -/
theorem request?_of_textId? {c : Console} {root : Address}
    (hroot : c.Rooted root)
    (htoken : c.session.token?.all (Http.legalHeader ∘ bearer) = true)
    {e : Endpoint} (he : e ∈ endpoints) {a : e.Arguments} {id : String}
    (hid : e.path.textId? a.path = some id) :
    ∃ request, c.request? (e.call a) = some request
      ∧ request.method = e.method
      ∧ (∀ seg ∈ request.address.segments, Url.Tidy seg.toList)
      ∧ (root.LeadsTo request.address (e.path.named a.path) (ownQuery? e a)
        ↔ e.path.keeps id = true) := by
  obtain ⟨hjoined, hquery⟩ := joined_endpoints e he
  obtain ⟨own, hown, hserver, hnone, hspells⟩ :=
    parse?_of_textId? hroot hjoined hid
  obtain ⟨query, hr, hasked⟩ := request?_of_parse hquery htoken hown
  have htidy := Address.tidy_of_parse? hown
  refine ⟨_, hr, rfl, htidy, fun h => ?_, fun h => ?_⟩
  · exact hspells.1 (h.path.congr rfl)
  · exact ⟨hserver, (hspells.2 h).congr rfl, hasked (hnone h)⟩

end Console

/-- An id addresses what it names just when it stays one segment.

Whatever text an endpoint takes as id, its request is sent with its
method. It leads to the collection of the endpoint, the id as one segment
that stands for it, and the action, with no other query than that of the
parameters, if and only if the path keeps the id: if it holds no slash, no
backslash, no question mark, no number sign, no tab and no line end, is
neither `.` nor `..`, holds no escape, and does not end the path with a
blank or control character. Requests of endpoints for ids that are kept
have different targets, unless they name the same. -/
theorem Console.id_stays_iff {c : Console} {root : Address}
    (hroot : c.Rooted root)
    (htoken : c.session.token?.all (Http.legalHeader ∘ bearer) = true) :
    (∀ e ∈ endpoints, ∀ (a : e.Arguments) (id : String),
      e.path.textId? a.path = some id →
        ∃ request, c.request? (e.call a) = some request
          ∧ request.method = e.method
          ∧ (root.LeadsTo request.address (e.path.named a.path)
              (ownQuery? e a)
            ↔ e.path.keeps id = true))
    ∧ ∀ e ∈ endpoints, ∀ f ∈ endpoints,
      ∀ (a : e.Arguments) (b : f.Arguments) (id other : String)
        (request further : Request),
        e.path.textId? a.path = some id → f.path.textId? b.path = some other →
        e.path.keeps id = true → f.path.keeps other = true →
        c.request? (e.call a) = some request →
        c.request? (f.call b) = some further →
        request.address.target = further.address.target →
          e.path.named a.path = f.path.named b.path ∧ id = other := by
  refine ⟨fun e he a id hid => ?_, ?_⟩
  · obtain ⟨request, hr, hmethod, -, hleads⟩ :=
      request?_of_textId? hroot htoken he hid
    exact ⟨request, hr, hmethod, hleads⟩
  · intro e he f hf a b id other request further hid hother hkeeps hkeeps'
      hr hr' htarget
    obtain ⟨_, hr₁, -, htidy, hleads⟩ :=
      request?_of_textId? hroot htoken he hid
    obtain ⟨_, hr₂, -, htidy', hleads'⟩ :=
      request?_of_textId? hroot htoken hf hother
    -- one target: the same segments, so both spell the same names
    obtain rfl := Option.some.inj (hr.symm.trans hr₁)
    obtain rfl := Option.some.inj (hr'.symm.trans hr₂)
    have hsegments := Address.segments_of_target htidy htidy' htarget
    have hnames := ((hleads.2 hkeeps).path.congr hsegments).unique
      (hleads'.2 hkeeps').path
    refine ⟨hnames, ?_⟩
    obtain ⟨_, _, -, -, hnamed, -⟩ :=
      Template.joined_of_textId? (joined_endpoints e he).1 hid
    obtain ⟨_, _, -, -, hnamed', -⟩ :=
      Template.joined_of_textId? (joined_endpoints f hf).1 hother
    rw [hnamed, hnamed'] at hnames
    exact (List.cons.inj (List.cons.inj hnames).2).1

-- ============================================================== examples

namespace Resource

theorem deleteHost_mem : deleteHost ∈ endpoints := by
  simp [endpoints, hosts]

/-- The directory that paths are joined to on a server with a shared
path. -/
def sharedRoot : Address :=
  ⟨false, "localhost", 80, ["api", "v1", ""], none⟩

end Resource

theorem Console.rooted_start :
    (Console.start "http://localhost/api/v1" default).Rooted sharedRoot := by
  have hplain : "http://localhost/api/v1".toList.all (!Url.endsPath ·)
      = true := by
    decide +kernel
  refine ⟨fun x hx => ?_, by decide +kernel⟩
  simpa using List.all_eq_true.1 hplain x hx

/-- A host with a blank in its id is deleted under this id. -/
theorem Console.blank_id_stays :
    let c := Console.start "http://localhost/api/v1" default
    let a : deleteHost.Arguments := ⟨("web 1", ()), (), ()⟩
    ∃ request, c.request? (deleteHost.call a) = some request
      ∧ request.method = .delete
      ∧ sharedRoot.LeadsTo request.address ["hosts", "web 1"] none := by
  intro c a
  obtain ⟨request, hr, hmethod, hleads⟩ :=
    (Console.id_stays_iff Console.rooted_start (by decide +kernel)).1
      deleteHost deleteHost_mem a "web 1" rfl
  have hnamed : deleteHost.path.named a.path = ["hosts", "web 1"] := by
    decide +kernel
  rw [hnamed] at hleads
  exact ⟨request, hr, hmethod, hleads.2 (by decide +kernel)⟩

/-- A host whose id walks up the path: its request does not name it, and
is the one that deletes a user. -/
theorem Console.host_deletes_user :
    let c := Console.start "http://localhost/api/v1" default
    let a : deleteHost.Arguments := ⟨("../users/1", ()), (), ()⟩
    let b : deleteUser.Arguments := ⟨(⟨1, by decide⟩, ()), (), ()⟩
    ∃ request, c.request? (deleteHost.call a) = some request
      ∧ c.request? (deleteUser.call b) = some request
      ∧ request.method = .delete
      ∧ request.address.target = "/api/v1/users/1"
      ∧ ¬ sharedRoot.Spells request.address
          (deleteHost.path.named a.path) := by
  intro c a b
  let address : Address :=
    ⟨false, "localhost", 80, ["api", "v1", "users", "1"], none⟩
  have htoken : c.session.token?.all (Http.legalHeader ∘ bearer) = true := by
    decide +kernel
  have hhost : c.address? (deleteHost.call a) = some address := by
    decide +kernel
  have huser : c.address? (deleteUser.call b) = some address := by
    decide +kernel
  refine ⟨_, request?_of_address htoken hhost,
    request?_of_address htoken huser, rfl, by decide +kernel, ?_⟩
  rintro ⟨tail, hsegments, hstands⟩
  have hsegments : ["api", "v1"] ++ ["users", "1"] = ["api", "v1"] ++ tail :=
    hsegments
  obtain rfl := List.append_cancel_left hsegments
  revert hstands
  decide +kernel

end SecurityConsole
