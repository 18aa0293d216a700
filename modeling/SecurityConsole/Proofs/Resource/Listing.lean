/-
Listings are asked for with just what is set, and no two questions look
the same.

A query tells each parameter that is set by its name and the text of its
value, in the order of the fields (`Fields.setTexts`); that is what the
query of the request is read back as. Texts tell values
(`Schema.wording_injective`), and no two parameters share a name, so the
pairs tell what was asked (`Fields.setTexts_injective`). For an endpoint
without slots in its path, all of this can be seen from the target of the
request alone (`Console.listings_tell_queries`).
-/
import SecurityConsole.Proofs.Json.Printing
import SecurityConsole.Proofs.Resource.Ids

namespace SecurityConsole

open Resource
open Url (Address pathText staysSegment endsPlain)

-- ================================================================== texts

namespace Schema

/-- The text of a value in a query; a choice is told by its name. -/
def wording : (s : Schema) → s.Value → String
  | .text, v => v
  | .bool, true => "true"
  | .bool, false => "false"
  | .int _ _, v => toString v.1
  | .real, v => Number.Double.toText v
  | .oneOf names, v => names.get v
  | _, _ => ""

/-- The text of a scalar is what it is worded as. -/
theorem scalarText?_eq_wording {s : Schema} (h : s.isScalar = true)
    (v : s.Value) : scalarText? (s.encode v) = some (s.wording v) := by
  cases s with
  | bool => cases v <;> rfl
  | text | int | real | oneOf => rfl
  | json | optional | list | record => cases h

/-- What a parameter is told by: one text for each item of a list, one for
an option that has a value, none for an option without one. -/
def texts (name : String) : (s : Schema) → s.Value → List (String × String)
  | .list s, v => List.map (fun x => (name ++ "[]", s.wording x)) v
  | .optional _, none => []
  | .optional s, some x => [(name, s.wording x)]
  | s, v => [(name, s.wording v)]

/-- All that a parameter tells stands under its key. -/
theorem key_of_mem_texts {name : String} {s : Schema} {v : s.Value}
    {p : String × String} (h : p ∈ s.texts name v) : p.1 = s.key name := by
  cases s with
  | list s =>
      obtain ⟨x, -, rfl⟩ := List.mem_map.1 h
      rfl
  | optional s =>
      cases v with
      | none => cases h
      | some x => cases List.mem_singleton.1 h; rfl
  | _ => cases List.mem_singleton.1 h; rfl

theorem queryTexts?_single {name : String} {s : Schema}
    (h : s.isScalar = true) (v : s.Value) :
    Console.queryTexts? [(name, s.encode v)] = some [(name, s.wording v)] := by
  unfold Console.queryTexts?
  rw [List.mapM_cons, List.mapM_nil, scalarText?_eq_wording h]
  rfl

/-- The pairs of a parameter have its texts. -/
theorem queryTexts?_pairs (name : String) {s : Schema}
    (h : s.isAskable = true) (v : s.Value) :
    Console.queryTexts? (s.pairs name v) = some (s.texts name v) := by
  cases s with
  | list s =>
      have h : s.isScalar = true := h
      show Console.queryTexts?
        (List.map (fun x => (name ++ "[]", s.encode x)) v)
          = some (List.map (fun x => (name ++ "[]", s.wording x)) v)
      induction (v : List s.Value) with
      | nil => rfl
      | cons x v ih =>
          unfold Console.queryTexts? at ih ⊢
          rw [List.map_cons, List.mapM_cons, scalarText?_eq_wording h, ih]
          rfl
  | optional s =>
      cases v with
      | none => rfl
      | some x => exact queryTexts?_single h x
  | _ =>
      refine queryTexts?_single ?_ v
      exact h

/-- A parameter is told by something just when it is set. -/
theorem texts_eq_nil_iff {name : String} {s : Schema} {v : s.Value} :
    s.texts name v = [] ↔ s.isSet v = false := by
  cases s with
  | list s =>
      show List.map _ (v : List s.Value) = [] ↔ (!List.isEmpty v) = false
      cases (v : List s.Value) with
      | nil => exact ⟨fun _ => rfl, fun _ => rfl⟩
      | cons x v => exact ⟨nofun, nofun⟩
  | optional s =>
      cases v with
      | none => exact ⟨fun _ => rfl, fun _ => rfl⟩
      | some x => exact ⟨nofun, nofun⟩
  | _ => exact ⟨nofun, nofun⟩

end Schema

namespace Fields

/-- What a query tells: the parameters that are set, in order, each with
its name and text. -/
def setTexts : (fs : Fields) → fs.Value → List (String × String)
  | .nil, _ => []
  | .cons name _ value rest, (v, r) => value.texts name v ++ rest.setTexts r

/-- Whether a parameter is set. -/
def isAnySet : (fs : Fields) → fs.Value → Bool
  | .nil, _ => false
  | .cons _ _ value rest, (v, r) => value.isSet v || rest.isAnySet r

/-- So what is told of a query stands under the keys of its
parameters. -/
theorem key_of_mem_setTexts {p : String × String} : ∀ {fs : Fields}
    {v : fs.Value}, p ∈ fs.setTexts v → p.1 ∈ fs.keys
  | .nil, _, h => by cases h
  | .cons name rule value rest, (v, r), h => by
      rcases List.mem_append.1 h with h | h
      · rw [Schema.key_of_mem_texts h]
        exact List.mem_cons_self
      · exact List.mem_cons_of_mem _ (key_of_mem_setTexts h)

/-- The texts of a query, parameter by parameter. None of them fails to
have one. -/
theorem queryTexts?_queryPairs : ∀ {fs : Fields}, fs.areAskable = true →
    ∀ v : fs.Value,
      Console.queryTexts? (Endpoint.queryPairs fs v) = some (fs.setTexts v)
  | .nil, _, _ => rfl
  | .cons name rule value rest, h, (v, r) => by
      obtain ⟨hvalue, hrest⟩ := Bool.and_eq_true_iff.1 h
      have hfront := Schema.queryTexts?_pairs name hvalue v
      have hbehind := queryTexts?_queryPairs hrest r
      unfold Console.queryTexts? at hfront hbehind ⊢
      rw [queryPairs_cons, List.mapM_append, hfront, hbehind]
      rfl

/-- Nothing is told just if nothing is set. -/
theorem setTexts_eq_nil_iff : ∀ {fs : Fields} {v : fs.Value},
    fs.setTexts v = [] ↔ fs.isAnySet v = false
  | .nil, _ => ⟨fun _ => rfl, fun _ => rfl⟩
  | .cons name rule value rest, (v, r) => by
      rw [setTexts, isAnySet, List.append_eq_nil_iff, Bool.or_eq_false_iff,
        Schema.texts_eq_nil_iff, setTexts_eq_nil_iff]

end Fields

-- ================================================================= values

namespace Schema

/-- Whether the text of a value tells it. -/
def isTelling : Schema → Bool
  | .text | .bool | .int .. => true
  | .oneOf names => names.Nodup
  | _ => false

/-- Scalars that are told apart are worded apart: texts by themselves,
integers by their digits, truth values and choices by their names. -/
theorem wording_injective {s : Schema} (h : s.isTelling = true)
    {v w : s.Value} (hw : s.wording v = s.wording w) : v = w := by
  cases s with
  | text => exact hw
  | bool =>
      cases v <;> cases w
      · rfl
      · exact absurd hw (by decide)
      · exact absurd hw (by decide)
      · rfl
  | int lo hi => exact Subtype.ext (Json.toString_injective hw)
  | oneOf names =>
      have hnodup : names.Nodup := of_decide_eq_true h
      have hname : names[v.val]? = names[w.val]? := by
        rw [List.getElem?_eq_getElem v.isLt, List.getElem?_eq_getElem w.isLt]
        exact congrArg some hw
      exact Fin.ext ((List.getElem?_inj v.isLt hnodup).1 hname)
  | real | json | optional | list | record => cases h

/-- Whether what a parameter is told by tells its value. -/
def isTold : Schema → Bool
  | .list s => s.isTelling
  | .optional s => s.isTelling
  | s => s.isTelling

/-- What a parameter tells, tells its value: an option by whether
anything is told, a list item by item. -/
theorem texts_injective {name : String} {s : Schema} (h : s.isTold = true)
    {v w : s.Value} (hw : s.texts name v = s.texts name w) : v = w := by
  have hone : ∀ {s : Schema} {x y : s.Value} (key : String),
      s.isTelling = true → (key, s.wording x) = (key, s.wording y) → x = y :=
    fun _ hs heq => wording_injective hs (Prod.mk.inj heq).2
  cases s with
  | list s =>
      exact (List.map_inj_right fun x y heq => hone _ h heq).1 hw
  | optional s =>
      cases v with
      | none =>
          cases w with
          | none => rfl
          | some y => cases hw
      | some x =>
          cases w with
          | none => cases hw
          | some y =>
              exact congrArg some (hone _ h (List.singleton_inj.1 hw))
  | _ =>
      refine hone _ ?_ (List.singleton_inj.1 hw)
      exact h

end Schema

namespace Fields

/-- Whether a query tells the values of its parameters. -/
def areTold : Fields → Bool
  | .nil => true
  | .cons _ _ value rest => value.isTold && rest.areTold

/-- Under the name of the first parameter stands just what it is told
by. -/
theorem filter_setTexts {name : String} {rule : Rule} {value : Schema}
    {rest : Fields} (h : value.key name ∉ rest.keys) (v : value.Value)
    (r : rest.Value) :
    (setTexts (.cons name rule value rest) (v, r)).filter
        (·.1 = value.key name)
      = value.texts name v := by
  have hown : (value.texts name v).filter (·.1 = value.key name)
      = value.texts name v :=
    List.filter_eq_self.2 fun p hp =>
      decide_eq_true (Schema.key_of_mem_texts hp)
  have hothers : (rest.setTexts r).filter (·.1 = value.key name) = [] := by
    refine List.filter_eq_nil_iff.2 fun p hp heq => h ?_
    rw [← of_decide_eq_true heq]
    exact key_of_mem_setTexts hp
  rw [setTexts, List.filter_append, hown, hothers, List.append_nil]

/-- What a query tells are the values of all its parameters. -/
theorem setTexts_injective : ∀ {fs : Fields}, fs.keys.Nodup →
    fs.areTold = true → ∀ {v w : fs.Value},
      fs.setTexts v = fs.setTexts w → v = w
  | .nil, _, _, _, _, _ => rfl
  | .cons name rule value rest, hkeys, htold, (v, r), (w, q), h => by
      obtain ⟨hname, hrest⟩ := List.nodup_cons.1 hkeys
      obtain ⟨hvalue, hothers⟩ := Bool.and_eq_true_iff.1 htold
      have hfirst := congrArg (List.filter (·.1 = value.key name)) h
      rw [filter_setTexts hname, filter_setTexts hname] at hfirst
      obtain rfl := Schema.texts_injective hvalue hfirst
      obtain rfl := setTexts_injective hrest hothers
        (List.append_cancel_left h)
      rfl

end Fields

-- =============================================================== requests

namespace Resource

/-- Whether a path has no slots. -/
def Template.isFixed : Template → Bool
  | .tail _ => true
  | .slot .. => false

/-- Whether a path without slots asks for nothing by itself, and begins
with the name of a collection. -/
def Template.isPlain : Template → Bool
  | .tail text =>
    match fixedNames text with
    | [] => false
    | collection :: names =>
      '?' ∉ text.toList && collection ≠ ""
        && text.toList = pathText ((collection :: names).map String.toList)
        && staysSegment collection.toList
  | .slot .. => true

/-- The names of the listings that take filters. -/
def listings : List String :=
  ["alerts.list", "assets.processes", "assets.ports", "assets.users",
    "assets.software", "assets.containers", "assets.apps",
    "assets.network_interfaces", "assets.volumes", "assets.kmods",
    "assets.services", "assets.crons", "business_lines.list",
    "components.push_records", "fix.fixable_items", "fix.tasks",
    "hosts.list", "notifications.list", "policies.list",
    "policy_groups.list", "tasks.list", "users.list"]

/-- All listings that take filters have fixed paths. -/
theorem listings_fixed : ∀ name ∈ listings,
    (endpoint? name).any (·.path.isFixed) = true := by
  decide +kernel

/-- What the catalogue has to be checked for: endpoints without slots
have plain paths, and parameters that tell their values under names of
their own. -/
theorem fixed_endpoints : ∀ e ∈ endpoints, e.path.isFixed = true →
    e.path.isPlain = true ∧ e.query.areTold = true
      ∧ e.query.keys.Nodup := by
  decide +kernel

/-- What a path without slots is. -/
theorem Template.tail_of_isPlain {t : Template} (hfixed : t.isFixed = true)
    (hplain : t.isPlain = true) :
    ∃ text collection names, (∀ v, t.render v = text)
      ∧ '?' ∉ text.toList ∧ collection ≠ ""
      ∧ text.toList = pathText ((collection :: names).map String.toList)
      ∧ staysSegment collection.toList = true := by
  cases t with
  | slot text name value rest => cases hfixed
  | tail text =>
      unfold isPlain at hplain
      simp only at hplain
      split at hplain
      · cases hplain
      · rename_i collection names _
        simp only [Bool.and_eq_true, decide_eq_true_eq] at hplain
        obtain ⟨⟨⟨hnone, hne⟩, htext⟩, hstays⟩ := hplain
        exact ⟨text, collection, names, fun _ => rfl, hnone, hne, htext,
          hstays⟩

end Resource

namespace Console

variable {c : Console} {e : Endpoint}

/-- An endpoint without slots is always asked on a directory of the web, if
the token can be written. -/
theorem request?_isSome_of_fixed {root : Address} (hroot : c.Rooted root)
    (he : e ∈ endpoints) (hfixed : e.path.isFixed = true)
    (a : e.Arguments) :
    (c.request? (e.call a)).isSome
      = c.session.token?.all (Http.legalHeader ∘ bearer) := by
  cases htoken : c.session.token?.all (Http.legalHeader ∘ bearer) with
  | false =>
      rw [request?_of_unwritable htoken]
      rfl
  | true =>
      obtain ⟨text, collection, names, hrender, -, hne, htext, hstays⟩ :=
        Template.tail_of_isPlain hfixed (fixed_endpoints e he hfixed).1
      obtain ⟨own, hown, -⟩ := parse?_of_names hroot hne hstays htext
      rw [← hrender a.path] at hown
      obtain ⟨query, hr, -⟩ :=
        request?_of_parse (joined_endpoints e he).2 htoken hown
      rw [hr]
      rfl

/-- The request of an endpoint without slots asks with just what is
set. -/
theorem request?_of_fixed (hbase : '?' ∉ c.baseUrl.toList)
    (he : e ∈ endpoints) (hfixed : e.path.isFixed = true)
    {a : e.Arguments} {request : Request}
    (h : c.request? (e.call a) = some request) :
    (∀ seg ∈ request.address.segments, Url.Tidy seg.toList)
      ∧ request.address.query
        = Url.Form.query? (e.query.setTexts a.query) := by
  have hquery := (joined_endpoints e he).2
  have hsent : (c.request? (e.call a)).isSome = true := by
    rw [h]
    rfl
  obtain ⟨own, -, hown, -⟩ := address?_pairs (request?_parts h).1
  obtain ⟨query, hr, hasked⟩ :=
    request?_of_parse hquery (request?_isSome_iff.1 hsent).2 hown
  obtain rfl := Option.some.inj (hr.symm.trans h)
  have htidy := Address.tidy_of_parse? hown
  refine ⟨htidy, ?_⟩
  have hnone : own.query = none := by
    obtain ⟨text, -, -, hrender, htext, -⟩ :=
      Template.tail_of_isPlain hfixed (fixed_endpoints e he hfixed).1
    refine Address.query_of_parse? (fun hmem => ?_) hown
    rw [hrender, Url.joinPath, String.toList_ofList] at hmem
    rcases List.mem_append.1 hmem with hmem | hmem
    · exact hbase hmem
    · rcases List.mem_cons.1 hmem with heq | hmem
      · exact absurd heq (by decide)
      · exact htext ((List.dropWhile_sublist _).subset hmem)
  have htexts : ownQuery? e a
      = Url.Form.query? (e.query.setTexts a.query) := by
    unfold ownQuery?
    rw [Fields.queryTexts?_queryPairs hquery]
  exact (hasked hnone).trans htexts

end Console

-- ============================================================== fixable items

namespace Resource

theorem fixableItems_mem : fixableItems ∈ endpoints := by
  simp [endpoints, fix]

/-- The name of a severity. -/
def severityLabel (s : severity.Value) : String :=
  match (show Fin 4 from s) with
  | 0 => "critical"
  | 1 => "high"
  | 2 => "medium"
  | 3 => "low"

/-- A query names severities as messages do. -/
theorem severity_wording (s : severity.Value) :
    severity.wording s = severityLabel s
      ∧ severity.encode s = .str (severityLabel s) := by
  match (show Fin 4 from s) with
  | 0 | 1 | 2 | 3 => exact ⟨rfl, rfl⟩

/-- What can be fixed is asked for by host, then by severity, then by the
rest. -/
theorem setTexts_fixableItems (hosts : List String)
    (severities : List severity.Value) (line : Option String)
    (page size : Option Schema.u32.Value) :
    fixableItems.query.setTexts (hosts, severities, line, page, size, ())
      = hosts.map (("host_ids[]", ·))
        ++ severities.map (("severities[]", severityLabel ·))
        ++ line.toList.map (("business_line", ·))
        ++ page.toList.map (("page", toString ·.1))
        ++ size.toList.map (("page_size", toString ·.1)) := by
  have hseverities : severities.map (("severities[]", severity.wording ·))
      = severities.map (("severities[]", severityLabel ·)) :=
    List.map_congr_left fun s _ => congrArg _ (severity_wording s).1
  have hline : Schema.texts "business_line" (.optional .text) line
      = line.toList.map (("business_line", ·)) := by
    cases line <;> rfl
  have hcount : ∀ (name : String) (n : Option Schema.u32.Value),
      Schema.texts name (.optional Schema.u32) n
        = n.toList.map ((name, toString ·.1)) := by
    intro name n
    cases n <;> rfl
  have hinOrder :
      fixableItems.query.setTexts (hosts, severities, line, page, size, ())
        = hosts.map (("host_ids[]", ·))
          ++ (severities.map (("severities[]", severity.wording ·))
            ++ (Schema.texts "business_line" (.optional .text) line
              ++ (Schema.texts "page" (.optional Schema.u32) page
                ++ (Schema.texts "page_size" (.optional Schema.u32) size
                  ++ [])))) := rfl
  rw [hinOrder, hseverities, hline, hcount, hcount]
  simp only [List.append_assoc, List.append_nil]

end Resource

/-- Listings are asked for with just what is set, and no two questions look
the same.

Every listing that takes filters has a fixed path. It is asked for on every
directory of the web, whatever its parameters, if the token can be written.
If the console's own address has no query, then what stands behind the
question mark of the target is read back as the parameters that are set, in
order, each with its name and text; and there is no question mark just when
nothing is set. So questions with one target are the same. What can be
fixed is asked for with one pair for each host and for each severity,
named as in messages, and then with the rest. -/
theorem Console.listings_tell_queries {c : Console}
    (hbase : '?' ∉ c.baseUrl.toList) :
    (∀ name ∈ listings, (endpoint? name).any (·.path.isFixed) = true)
      ∧ (∀ e ∈ endpoints, e.path.isFixed = true → ∀ a : e.Arguments,
        (∀ root, c.Rooted root → (c.request? (e.call a)).isSome
            = c.session.token?.all (Http.legalHeader ∘ bearer))
          ∧ ∀ request, c.request? (e.call a) = some request →
            let target := request.address.target
            Url.Form.decode? ((Address.queryOfTarget? target).getD "")
                = some (e.query.setTexts a.query)
              ∧ ('?' ∈ target.toList ↔ e.query.isAnySet a.query = true)
              ∧ ∀ (b : e.Arguments) (other : Request),
                c.request? (e.call b) = some other →
                  other.address.target = target → b.query = a.query)
      ∧ fixableItems ∈ endpoints
      ∧ ∀ (hosts : List String) (severities : List severity.Value)
        (line : Option String) (page size : Option Schema.u32.Value),
        fixableItems.query.setTexts (hosts, severities, line, page, size, ())
            = hosts.map (("host_ids[]", ·))
              ++ severities.map (("severities[]", severityLabel ·))
              ++ line.toList.map (("business_line", ·))
              ++ page.toList.map (("page", toString ·.1))
              ++ size.toList.map (("page_size", toString ·.1))
          ∧ ∀ s ∈ severities, severity.encode s = .str (severityLabel s) := by
  refine ⟨listings_fixed, fun e he hfixed a => ⟨fun root hroot => ?_, ?_⟩,
    fixableItems_mem, ?_⟩
  · exact request?_isSome_of_fixed hroot he hfixed a
  · intro request hr
    obtain ⟨htidy, hquery⟩ := request?_of_fixed hbase he hfixed hr
    refine ⟨?_, ?_, fun b other hother htarget => ?_⟩
    · rw [Address.queryOfTarget?_target htidy, hquery]
      exact Url.Form.decode?_query? _
    · rw [Address.mem_target_iff htidy, hquery, Url.Form.query?_isSome_iff,
        Ne, Fields.setTexts_eq_nil_iff, Bool.not_eq_false]
    · obtain ⟨htidy', hquery'⟩ := request?_of_fixed hbase he hfixed hother
      -- one target: one query, one reading, the same values
      have hsame := congrArg Address.queryOfTarget? htarget
      rw [Address.queryOfTarget?_target htidy,
        Address.queryOfTarget?_target htidy', hquery, hquery'] at hsame
      have hread := congrArg (fun q => Url.Form.decode? (q.getD "")) hsame
      simp only [Url.Form.decode?_query?] at hread
      obtain ⟨-, htold, hkeys⟩ := fixed_endpoints e he hfixed
      exact Fields.setTexts_injective hkeys htold (Option.some.inj hread)
  · intro hosts severities line page size
    exact ⟨setTexts_fixableItems hosts severities line page size,
      fun s _ => (severity_wording s).2⟩

/-- Signs that separate, letters beyond ASCII and an empty text are all read
back. -/
theorem Console.separators_are_read_back :
    let c := Console.start "http://localhost/api/v1" default
    let a : fixableItems.Arguments :=
      ⟨(), (["a&b=c", "ü +"], [(1 : Fin 4), (3 : Fin 4)], some "", none,
        some ⟨20, by decide⟩, ()), ()⟩
    '?' ∉ c.baseUrl.toList
      ∧ ∃ request, c.request? (fixableItems.call a) = some request
        ∧ Url.Form.decode?
            ((Address.queryOfTarget? request.address.target).getD "")
          = some [("host_ids[]", "a&b=c"), ("host_ids[]", "ü +"),
            ("severities[]", "high"), ("severities[]", "low"),
            ("business_line", ""), ("page_size", "20")] := by
  intro c a
  have hbase : '?' ∉ c.baseUrl.toList := by decide +kernel
  obtain ⟨-, hlistings, hmem, htexts⟩ := Console.listings_tell_queries hbase
  obtain ⟨hsent, hasked⟩ := hlistings fixableItems hmem rfl a
  obtain ⟨request, hr⟩ := Option.isSome_iff_exists.1
    ((hsent sharedRoot Console.rooted_start).trans rfl)
  refine ⟨hbase, request, hr, ?_⟩
  exact (hasked request hr).1.trans
    (congrArg some ((htexts _ _ _ _ _).1.trans rfl))

end SecurityConsole
