/-
No record loses anything on a round trip.

All records that are both read and written are well formed, so they are
lossless, and so are pages of anything that is (`Resource.records_keep`).
The hosts of a notification, which it holds as text, are printed as a text
that is read as the same hosts (`Resource.scope_ofString?`). Settings are
read from what a reply brings (`Reply.decodeNamed_settings`) and written
to where they were read from (`Console.request?_writeSettings`); they are
verbatim, so each field that the reply had is sent as it was.
-/
import SecurityConsole.Resource.Catalog
import SecurityConsole.Proofs.Schema.Printed
import SecurityConsole.Proofs.Schema.Verbatim
import SecurityConsole.Proofs.Transport.Sending
import SecurityConsole.Proofs.Transport.Status
import SecurityConsole.Proofs.Transport.Unwrapping

namespace SecurityConsole

open Resource

-- ================================================================= scopes

/-- Texts are plain values, and nested in nothing. -/
theorem Json.plain_texts (texts : List String) :
    Json.ItemsPlain (texts.map .str)
      ∧ Json.itemsNesting (texts.map .str) = 0 := by
  induction texts with
  | nil => exact ⟨trivial, rfl⟩
  | cons text texts ih =>
      refine ⟨⟨trivial, ih.1⟩, ?_⟩
      rw [List.map_cons, Json.itemsNesting, ih.2]
      rfl

namespace Resource

/-- The selected hosts of a notification are printed as a text that is
read as the same hosts. -/
theorem scope_ofString? (v : scopeValue.Value) :
    scopeValue.ofString? (scopeValue.encode v).print = some v := by
  obtain ⟨tags, lines, hosts, ⟨⟩⟩ := v
  obtain ⟨htags, htags0⟩ := Json.plain_texts tags
  obtain ⟨hlines, hlines0⟩ := Json.plain_texts lines
  obtain ⟨hhosts, hhosts0⟩ := Json.plain_texts hosts
  have hread : ∀ texts : List String,
      (Schema.list .text).decode (.arr (texts.map .str)) = some texts :=
    fun texts => Schema.mapM_map fun _ _ => rfl
  refine (@Schema.ofString?_print false _ _ ?_ ?_).trans ?_
  · refine ⟨⟨htags, hlines, hhosts, trivial⟩, ?_⟩
    show ["tags", "business_lines", "host_ids"].Nodup
    decide
  · show max (Json.itemsNesting (tags.map .str) + 1)
      (max (Json.itemsNesting (lines.map .str) + 1)
        (max (Json.itemsNesting (hosts.map .str) + 1) 0)) + 1 ≤ 127
    omega
  · exact Fields.decodeNamed_encode_cons (by decide) nofun (hread tags)
      (Fields.decodeNamed_encode_cons (by decide) nofun (hread lines)
        (Fields.decodeNamed_encode_cons (by decide) nofun (hread hosts)
          rfl))

-- =============================================================== settings

/-- All settings that can be read are verbatim, and well formed. -/
theorem checked_of_readSettings {action path : String} {fs : Fields}
    (h : readSettings action path fs ∈ systemConfig) :
    fs.verbatim = true ∧ fs.wellFormed = true := by
  have hanswer := List.mem_map_of_mem (f := Endpoint.answer) h
  have hfields : fs = SiteConfig.schema.fieldTable
      ∨ fs = kubernetesImageConfig.fieldTable := by
    simpa [systemConfig, siteConfigEndpoint, readSettings, writeSettings]
      using hanswer
  rcases hfields with rfl | rfl <;> decide

end Resource

/-- A request to where another was sent, that writes a body there. -/
def Request.writing (body : Json) (r : Request) : Request :=
  { r with method := .put, body := some body }

namespace Console

/-- Settings are written to where they were read from. -/
theorem request?_writeSettings (c : Console) (get put path : String)
    {fs : Fields} (v : fs.Value) :
    c.request? ((writeSettings put path fs).call ⟨(), (), v⟩)
      = (c.request? ((readSettings get path fs).call ⟨(), (), ()⟩)).map
        (Request.writing (.obj (fs.encode v))) := by
  have haddress : c.address? ((writeSettings put path fs).call ⟨(), (), v⟩)
      = c.address? ((readSettings get path fs).call ⟨(), (), ()⟩) :=
    c.address?_congr rfl rfl
  unfold request?
  rw [haddress]
  cases c.address? ((readSettings get path fs).call ⟨(), (), ()⟩) with
  | none => rfl
  | some address =>
      simp only
      split
      · rfl
      · rfl

end Console

-- ================================================================ records

/-- The value of a shape as it is written after it was read. -/
def Schema.rewrite? (s : Schema) (j : Json) : Option Json :=
  (s.decode j).map s.encode

theorem Schema.RoundTrips.rewrite? {s : Schema} (h : s.RoundTrips)
    {j k : Json} (hk : s.rewrite? j = some k) : s.rewrite? k = some k := by
  obtain ⟨v, hv, rfl⟩ := Option.map_eq_some_iff.1 hk
  rw [Schema.rewrite?, h j v hv]
  rfl

/-- A page of items that are read back is read back. -/
theorem Schema.RoundTrips.page {item : Schema} (h : item.RoundTrips) :
    (Resource.page item).RoundTrips := by
  refine Schema.Lossless.roundTrips (Fields.Lossless.record ?_ false)
  have hname : "total" ∉ (Fields.ofList [fill "items" (.list item)]).names := by
    show "total" ∉ ["items"]
    decide
  exact .cons hname nofun (Schema.lossless_int _ _)
    (.cons List.not_mem_nil nofun h.list Fields.lossless_nil)

/-- What answers a call is read from the data of the reply. -/
theorem Verdict.of_answered {call : Call} {reply : Reply}
    {v : call.answer.Value} (h : Verdict.ofReply call reply = .answered v) :
    ∃ status body e, reply = .response status body
      ∧ Envelope.ofBytes? (Http.carriedBody status body) = some e
      ∧ call.answer.decode e.data = some v := by
  cases reply with
  | lost => cases h
  | response status body =>
      refine ⟨status, body, ?_⟩
      cases hstatus : Http.isSuccess status with
      | true =>
          rw [ofReply_success hstatus, ofSuccess] at h
          cases he : Envelope.ofBytes? (Http.carriedBody status body) with
          | none => rw [he] at h; cases h
          | some e =>
              rw [he] at h
              simp only [ofEnvelope] at h
              split at h
              · split at h
                · rename_i hv
                  cases h
                  exact ⟨e, rfl, rfl, hv⟩
                · cases h
              · split at h <;> cases h
      | false =>
          by_cases hno : status = 401
          · rw [hno, ofReply_of_unauthorized] at h
            cases h
          · rw [ofReply_of_failure hstatus hno] at h
            cases h

/-- The settings that a reply brings, under the names of the fields. -/
def Reply.settings (fs : Fields) : Reply → List (String × Json)
  | .lost => []
  | .response status body =>
    match Envelope.ofBytes? (Http.carriedBody status body) with
    | some e => fs.members e.data
    | none => []

/-- Settings that answer a call are read from what the reply brings. -/
theorem Reply.decodeNamed_settings {action path : String} {fs : Fields}
    {reply : Reply} {v : fs.Value} (hnames : fs.names.Nodup)
    (h : Verdict.ofReply ((readSettings action path fs).call ⟨(), (), ()⟩)
      reply = .answered v) :
    fs.decodeNamed (reply.settings fs) = some v := by
  obtain ⟨status, body, e, rfl, he, hv⟩ := Verdict.of_answered h
  have hv : (Schema.record false fs).decode e.data = some v := hv
  rw [Reply.settings, he]
  exact Fields.decodeNamed_members hnames hv

/-- No record loses anything on a round trip.

Whatever a record that is both read and written was read from, what it is
written as is read as that record, so reading and writing it again changes
nothing; and likewise a page of records of any kind that keep to this. The
selected hosts that stand in a notification as text are read as they were
printed. Settings that were read from a reply are written back with a
request to where they were read from, that holds these very settings; and
each of their fields that the reply had is sent as it was. -/
theorem Resource.records_keep :
    (∀ s ∈ records, s.RoundTrips
      ∧ ∀ j k, s.rewrite? j = some k → s.rewrite? k = some k)
    ∧ (∀ item : Schema, item.RoundTrips → (page item).RoundTrips
      ∧ ∀ j k, (page item).rewrite? j = some k →
          (page item).rewrite? k = some k)
    ∧ (∀ (n : notification.Value) (v : scopeValue.Value),
      (notification.encode n).get? "scope_value"
          = some (.str (scopeValue.encode v).print) →
        scopeOf? n = some v)
    ∧ ∀ (get put path : String) (fs : Fields),
      readSettings get path fs ∈ systemConfig →
      writeSettings put path fs ∈ systemConfig →
      ∀ (c : Console) (reply : Reply) (v : fs.Value),
        Verdict.ofReply ((readSettings get path fs).call ⟨(), (), ()⟩) reply
            = .answered v →
          ∃ sent, c.request? ((writeSettings put path fs).call ⟨(), (), v⟩)
              = (c.request? ((readSettings get path fs).call
                  ⟨(), (), ()⟩)).map (Request.writing (.obj sent))
            ∧ fs.decodeNamed sent = some v
            ∧ ∀ name ∈ fs.names, ∀ j,
              (reply.settings fs).lookup name = some j →
                sent.lookup name = some j := by
  refine ⟨fun s hs => ?_, fun item h => ⟨h.page, fun _ _ => h.page.rewrite?⟩,
    fun n v hn => ?_, fun get put path fs hget _ c reply v hv => ?_⟩
  · have hall : ∀ s ∈ records, s.wellFormed = true := by decide +kernel
    have hs := (Schema.lossless_of_wellFormed (hall s hs)).roundTrips
    exact ⟨hs, fun _ _ => hs.rewrite?⟩
  · unfold scopeOf?
    rw [hn]
    exact scope_ofString? v
  · obtain ⟨hverbatim, hformed⟩ := checked_of_readSettings hget
    have hread := Reply.decodeNamed_settings
      (Fields.names_nodup_of_verbatim hverbatim) hv
    refine ⟨fs.encode v, c.request?_writeSettings get put path v, ?_, ?_⟩
    · exact Fields.lossless_of_wellFormed hformed v (.inl ⟨_, hread⟩)
    · exact fun name hname j hthere =>
        Fields.lookup_written hthere hverbatim hread hname

/-- The address that agents report to is sent back as it was read, beside
a member of the reply that is no setting and stays behind. -/
theorem Resource.records_keep_backend :
    let fs := SiteConfig.schema.fieldTable
    let get := readSettings "site_config" sitePath fs
    let put := writeSettings "update_site_config" sitePath fs
    ∃ (reply : Reply) (v : fs.Value) (request : Request)
        (sent : List (String × Json)),
      Verdict.ofReply (get.call ⟨(), (), ()⟩) reply = .answered v
        ∧ (Console.start "http://localhost" default).request?
            (put.call ⟨(), (), v⟩) = some request
        ∧ request.body = some (.obj sent)
        ∧ sent.lookup "backend_url" = some (.str "agents.local:6751")
        ∧ fs.decodeNamed sent = some v := by
  intro fs get put
  let data : Json :=
    .obj [("backend_url", .str "agents.local:6751"), ("theme", .bool true)]
  let v : fs.Value := ("", "", "", "agents.local:6751", ())
  obtain ⟨s, hs⟩ := Envelope.exists_successText (j := data)
    (by refine ⟨⟨trivial, trivial, trivial⟩, ?_⟩; decide)
  have hdepth : ∀ j, some data = some j →
      j.nesting < Json.Document.nestingLimit := by
    intro j hj
    rw [← Option.some.inj hj]
    decide
  have hv : Verdict.ofReply (get.call ⟨(), (), ()⟩)
      (.response 200 (Text.encodeChars s)) = .answered v :=
    Verdict.ofReply_of_successText hs hdepth rfl (by decide) rfl
  obtain ⟨message, he⟩ := Envelope.ofBytes?_of_successText hs hdepth
  have hsettings : Reply.settings fs (.response 200 (Text.encodeChars s))
      = [("backend_url", .str "agents.local:6751"),
        ("theme", .bool true)] := by
    have hcarried : Http.carriedBody 200 (Text.encodeChars s)
        = Text.encodeChars s := rfl
    rw [Reply.settings, hcarried, he]
    rfl
  have hget : (Console.start "http://localhost" default).request?
      (get.call ⟨(), (), ()⟩) |>.isSome := by
    decide +kernel
  obtain ⟨r, hr⟩ := Option.isSome_iff_exists.1 hget
  obtain ⟨sent, hsent, hback, hthere⟩ := Resource.records_keep.2.2.2
    "site_config" "update_site_config" sitePath fs
    (by simp [systemConfig, siteConfigEndpoint, fs])
    (by simp [systemConfig, fs])
    (Console.start "http://localhost" default)
    (.response 200 (Text.encodeChars s)) v hv
  rw [hr] at hsent
  refine ⟨_, v, _, sent, hv, hsent, rfl,
    hthere "backend_url" (by decide) _ ?_, hback⟩
  rw [hsettings]
  rfl

end SecurityConsole
