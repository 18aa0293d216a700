/-
Successes: a call is answered with the data of the envelope, just as it
was written.

The body is a text of an object, in which the members of an envelope stand
in any order, among any others (`Envelope.SuccessText`). The reader looks
for the names it knows and finds what they have in the object
(`known?_of_named`), so it reads the code of a success and the data, and
what the message is makes no difference (`ofBytes?_of_successText`). A job
that waits for such a reply ends with the data, or ends well if it asks
for none (`success_gives_data`).
-/
import SecurityConsole.Console.Requests
import SecurityConsole.Console.SignIn
import SecurityConsole.Proofs.Json.Printing
import SecurityConsole.Proofs.Run.Trail
import SecurityConsole.Proofs.Transport.Refusal

namespace SecurityConsole

open Json (Document Pieces Denotes Spells quoteChars IsDigits IsHex
  TokenText Spaced)

-- ================================================================ fields

/-- A record is read field by field. -/
theorem Fields.decodeNamed_cons (name : String) (rule : Rule)
    (value : Schema) (rest : Fields) (vs : List (String × Json)) :
    (cons name rule value rest).decodeNamed vs
      = match (match vs.lookup name with
          | some j => value.decode j
          | none => if rule.missing = .refused then none else value.blank?),
        rest.decodeNamed vs with
      | some v, some r => some (v, r)
      | _, _ => none := rfl

-- ============================================================= envelopes

namespace Envelope

/-- The members of an envelope that says success, with some data or
without any. Names are distinct; nothing is said about their order, or
about members of other names. -/
structure Succeeds (es : List (String × Document)) (data : Option Json) :
    Prop where
  distinct : (es.map Prod.fst).Nodup
  code : ∃ d, ("code", d) ∈ es ∧ Denotes d (.int codeOk)
  message : ∀ d, ("message", d) ∈ es →
    Denotes d .null ∨ ∃ s, Denotes d (.str s)
  carried : ∀ j, data = some j → ∃ d, ("data", d) ∈ es ∧ Denotes d j
  missing : data = none → "data" ∉ es.map Prod.fst

/-- A text of such an envelope. -/
def SuccessText (s : List Char) (data : Option Json) : Prop :=
  ∃ ms es, (Document.object ms).HasText s ∧ Document.NamedAs ms es
    ∧ Succeeds es data

namespace Succeeds

variable {es : List (String × Document)} {data : Option Json} {depth : Nat}

/-- The code is looked up by its name, wherever it stands. -/
theorem read_code (h : Succeeds es data) (depth : Nat) :
    (es.lookup "code").bind (·.toJson? depth) = some (.int codeOk) := by
  obtain ⟨d, hmem, hd⟩ := h.code
  rw [Json.lookup_of_mem h.distinct hmem]
  exact Document.toJson?_of_denotes hd (Nat.zero_le _)

/-- A message may be there or be nothing; it is read either way. -/
theorem read_message (h : Succeeds es data) (depth : Nat) {d : Document}
    (hmem : ("message", d) ∈ es) :
    d.toJson? depth = some .null ∨ ∃ s, d.toJson? depth = some (.str s) := by
  rcases h.message d hmem with hd | ⟨s, hd⟩
  · exact .inl (Document.toJson?_of_denotes hd (Nat.zero_le _))
  · exact .inr ⟨s, Document.toJson?_of_denotes hd (Nat.zero_le _)⟩

/-- The data is what is carried under its name, and nothing if nothing
is. -/
theorem read_data (h : Succeeds es data)
    (hdepth : ∀ j, data = some j → j.nesting ≤ depth) :
    (es.lookup "data").bind (·.toJson? depth) = data := by
  cases data with
  | none =>
      rw [Json.lookup_eq_none_of_fresh (h.missing rfl)]
      rfl
  | some j =>
      obtain ⟨d, hmem, hd⟩ := h.carried j rfl
      rw [Json.lookup_of_mem h.distinct hmem]
      exact Document.toJson?_of_denotes hd (hdepth j rfl)

theorem names_schema :
    schema.fieldTable.names = ["code", "message", "data"] := rfl

/-- Whatever stands under one of the three names is read. -/
theorem readable (h : Succeeds es data)
    (hdepth : ∀ j, data = some j → j.nesting ≤ depth) :
    ∀ e ∈ es, e.1 ∈ schema.fieldTable.names →
      ∃ j, e.2.toJson? depth = some j := by
  rintro ⟨name, d⟩ he hname
  have hlookup := Json.lookup_of_mem h.distinct he
  simp only [names_schema, List.mem_cons, List.not_mem_nil, or_false]
    at hname
  rcases hname with rfl | rfl | rfl
  · have hcode := h.read_code depth
    rw [hlookup] at hcode
    exact ⟨_, hcode⟩
  · rcases h.read_message depth he with hnull | ⟨s, hs⟩
    · exact ⟨_, hnull⟩
    · exact ⟨_, hs⟩
  · have hdata := h.read_data hdepth
    rw [hlookup] at hdata
    cases data with
    | none =>
        have hnone := Json.lookup_eq_none_of_fresh (h.missing rfl)
        rw [hlookup] at hnone
        cases hnone
    | some j => exact ⟨j, hdata⟩

/-- The record that is read from an envelope that succeeds. -/
theorem decode (h : Succeeds es data)
    (hdepth : ∀ j, data = some j → j.nesting ≤ depth) :
    ∃ message, (schema.decode (.obj (Document.knownValues
        schema.fieldTable.names depth es))).map
          (fun (code, message, data, ()) =>
            (⟨code.1, message, data⟩ : Envelope))
      = some ⟨codeOk, message, data.getD .null⟩ := by
  have hvalues : ∀ name ∈ schema.fieldTable.names, _ :=
    fun name hname =>
      Document.lookup_knownValues hname depth (h.readable hdepth)
  generalize Document.knownValues _ _ _ = vs at hvalues ⊢
  have hcode : vs.lookup "code" = some (.int codeOk) :=
    (hvalues "code" (by decide)).trans (h.read_code depth)
  have hdata : vs.lookup "data" = data :=
    (hvalues "data" (by decide)).trans (h.read_data hdepth)
  have hmessage : vs.lookup "message" = none
      ∨ vs.lookup "message" = some .null
      ∨ ∃ s, vs.lookup "message" = some (.str s) := by
    rw [hvalues "message" (by decide)]
    cases hlookup : es.lookup "message" with
    | none => exact .inl rfl
    | some d => exact .inr (h.read_message depth (Json.mem_of_lookup hlookup))
  have hshape : schema.decode (.obj vs)
      = Fields.decodeNamed (.cons "code" ⟨.refused, .always⟩ .i64
        (.cons "message" ⟨.blank, .always⟩ (.optional .text)
          (.cons "data" ⟨.blank, .always⟩ .json .nil))) vs := rfl
  rw [hshape, Fields.decodeNamed_cons, Fields.decodeNamed_cons,
    Fields.decodeNamed_cons, hcode, hdata]
  rcases hmessage with hm | hm | ⟨s, hm⟩
  · refine ⟨none, ?_⟩
    rw [hm]
    cases data <;> rfl
  · refine ⟨none, ?_⟩
    rw [hm]
    cases data <;> rfl
  · refine ⟨some s, ?_⟩
    rw [hm]
    cases data <;> rfl

end Succeeds

/-- The whole envelope is read, with whatever message it has. -/
theorem ofBytes?_of_successText {s : List Char} {data : Option Json}
    (h : SuccessText s data)
    (hdepth : ∀ j, data = some j → j.nesting < Document.nestingLimit) :
    ∃ message, ofBytes? (Text.encodeChars s)
      = some ⟨codeOk, message, data.getD .null⟩ := by
  obtain ⟨ms, es, htext, hnamed, hsucceeds⟩ := h
  have hdepth' : ∀ j, data = some j →
      j.nesting ≤ Document.nestingLimit - 1 := by
    intro j hj
    have hj' := hdepth j hj
    omega
  have hknown := Document.known?_of_named hnamed [] (by
    simpa using hsucceeds.distinct) (hsucceeds.readable hdepth')
  obtain ⟨message, hdecode⟩ := hsucceeds.decode hdepth'
  refine ⟨message, ?_⟩
  rw [← hdecode]
  unfold ofBytes? Schema.ofBytes?
  rw [Document.ofBytes?_of_hasText htext]
  show Option.map _ ((Option.map Json.obj (Document.known? _ _ ms [])).bind
    _) = _
  rw [hknown]
  rfl

/-- Every value that a document can denote is carried by some envelope. -/
theorem exists_successText {j : Json} (h : j.Plain) :
    ∃ s, SuccessText s (some j) := by
  have hplain : (Json.obj [("code", .int codeOk), ("data", j)]).Plain :=
    ⟨⟨⟨by decide, by decide⟩, h, trivial⟩, by simp⟩
  obtain ⟨d, hdenotes, htext⟩ := Json.exists_text hplain
  cases hdenotes with
  | object hmembers hdistinct =>
  cases hmembers with
  | cons hcode hzero hmembers =>
  cases hmembers with
  | cons hdata hj hmembers =>
  cases hmembers with
  | nil =>
  refine ⟨_, _, _, htext, .cons hcode (.cons hdata .nil), ?_⟩
  exact {
    distinct := by simp
    code := ⟨_, List.mem_cons_self, hzero⟩
    message := fun d hmem => by simp at hmem
    carried := fun i hi => ⟨_, List.mem_cons_of_mem _ List.mem_cons_self,
      Option.some.inj hi ▸ hj⟩
    missing := nofun }

end Envelope

-- ================================================================= calls

section
variable {s : List Char} {data : Option Json} {status : Nat}

/-- What the reply is to a call: the answer that its data is read as. -/
theorem Verdict.ofReply_of_successText {call : Call}
    {value : call.answer.Value} (h : Envelope.SuccessText s data)
    (hdepth : ∀ j, data = some j → j.nesting < Document.nestingLimit)
    (hstatus : Http.isSuccess status = true) (hbody : status ≠ 204)
    (hvalue : call.answer.decode (data.getD .null) = some value) :
    ofReply call (.response status (Text.encodeChars s))
      = .answered value := by
  have hcarried : Http.carriedBody status (Text.encodeChars s)
      = Text.encodeChars s := by
    have hnot : ¬ (status = 204 ∨ status = 304) := by
      rintro (h | rfl)
      · exact hbody h
      · cases hstatus
    exact if_neg hnot
  obtain ⟨message, henvelope⟩ :=
    Envelope.ofBytes?_of_successText h hdepth
  rw [ofReply_success hstatus, hcarried]
  unfold ofSuccess
  rw [henvelope]
  show ofEnvelope call _ = _
  unfold ofEnvelope
  rw [if_pos rfl, hvalue]

end

/-- A job that sends one call, and ends with a result when the reply
comes, whatever has happened to the console meanwhile; only the count of
calls that went well grows by one. -/
def Job.Resolves {α : Type} (j : Job α) (call : Call) (reply : Reply)
    (result : α) : Prop :=
  ∀ (c : Console) (request : Request) (next : Nat),
    c.request? call = some request →
      ∃ p, j.advance next c = (p, c)
        ∧ ∀ (d : Console) (later : Nat),
          p.deliver later next reply d
            = (.ended result, d.counted call.method .ok)

/-- A call on its own resolves to its answer. -/
theorem Job.call_resolves {call : Call} {reply : Reply}
    {value : call.answer.Value}
    (h : Verdict.ofReply call reply = .answered value) :
    (Job.call call).Resolves call reply (.ok value) := by
  intro c request next hr
  let slots : Slots [call] := (.pending next request, ())
  have hsend : Slots.send next c [call] = (slots, c) :=
    Slots.send_cons_of_some hr
  have hnone : (Slots.send next c [call]).1.answers? = none := by
    rw [hsend]
    rfl
  refine ⟨.waiting slots fun as => .done as.1, ?_, fun d later => ?_⟩
  · unfold Job.call
    rw [advance_calls_of_none hnone, hsend]
  · have hsettled : slots.deliver next reply d
        = ((.settled (.ok value), ()), d.counted call.method .ok) := by
      have hanswer : d.settle call request.token reply
          = (.ok value, d.counted call.method .ok) :=
        d.settle_of_answered h
      simp only [slots, Slots.deliver, if_true, hanswer]
      rfl
    have hsome : (slots.deliver next reply d).1.answers?
        = some (.ok value, ()) := by
      rw [hsettled]
      rfl
    rw [Paused.deliver_of_some hsome, hsettled]
    rfl

namespace Console

/-- The reply to a call is a success that carries a body, and the body is
any text of an envelope that says so. Then whoever asks for the data
itself is given just what the envelope carries, and whoever asks for
nothing is told that all went well, also if it carries nothing. No notice
is shown. -/
theorem success_gives_data {s : List Char} {data : Option Json}
    {status : Nat} (h : Envelope.SuccessText s data)
    (hdepth : ∀ j, data = some j → j.nesting < Document.nestingLimit)
    (hstatus : Http.isSuccess status = true) (hbody : status ≠ 204) :
    let reply := Reply.response status (Text.encodeChars s)
    (∀ m path query body,
        (fetch m path query body).Resolves
          ⟨m, path, query, body, .value .json⟩ reply
          (.ok (data.getD .null)))
      ∧ (∀ m path body,
        (submit m path body).Resolves ⟨m, path, none, body, .nothing⟩ reply
          (.ok ()))
      ∧ (∀ (e : Resource.Endpoint) (a : e.Arguments),
        e.answer = .nothing → bodyViolations e a = [] →
          ∃ value, (request e a).Resolves (e.call a) reply (.ok value))
      ∧ (∀ p : PasswordChange, p.violations = [] →
        (changePassword p).Resolves (passwordCall p) reply (.ok ())) := by
  refine ⟨?_, ?_, ?_, ?_⟩
  · intro m path query body
    exact Job.call_resolves
      (Verdict.ofReply_of_successText h hdepth hstatus hbody rfl)
  · intro m path body
    exact Job.call_resolves
      (Verdict.ofReply_of_successText h hdepth hstatus hbody rfl)
  · intro e a hanswer hvalid
    obtain ⟨value, hvalue⟩ : ∃ value,
        (e.call a).answer.decode (data.getD .null) = some value := by
      show ∃ value, e.answer.decode _ = some value
      rw [hanswer]
      exact ⟨(), rfl⟩
    refine ⟨value, ?_⟩
    unfold request
    rw [hvalid]
    exact Job.call_resolves
      (Verdict.ofReply_of_successText h hdepth hstatus hbody hvalue)
  · intro p hvalid
    unfold changePassword
    rw [hvalid]
    exact Job.call_resolves
      (Verdict.ofReply_of_successText h hdepth hstatus hbody rfl)

/-- An envelope with its members in another order, and one more between
them; a letter of the data is escaped. -/
def shuffled : List Char :=
  ['{', ' '] ++ (quoteChars "data".toList ++ ([':', ' ', '"', '\\', 'u',
    '0', '0', 'E', '9', '"', ','] ++ (quoteChars "trace".toList ++ ([':',
    '[', '1', '.', '5', 'e', '+', '3', ']', ',', '\n']
    ++ (quoteChars "code".toList ++ [':', '0', '}'])))))

/-- It is a text of an envelope that says success. -/
theorem shuffled_successText :
    Envelope.SuccessText shuffled (some (.str (String.ofList ['é']))) := by
  let count : Json.Numeral := ⟨false, ['1'], some ['5'], some (false, ['3'])⟩
  let zero : Json.Numeral := ⟨false, ['0'], none, none⟩
  obtain ⟨hone, hfive, hthree, hzero⟩ : IsDigits ['1'] ∧ IsDigits ['5']
      ∧ IsDigits ['3'] ∧ IsDigits ['0'] := by
    simp [IsDigits]
  obtain ⟨h0, hE, h9⟩ : IsHex 0 '0' ∧ IsHex 14 'E' ∧ IsHex 9 '9' := by
    unfold IsHex
    decide
  have hplus : ['+'] ∈ Json.exponentSigns false := by decide
  have hletter : TokenText (.string [.unit 0xE9])
      ['"', '\\', 'u', '0', '0', 'E', '9', '"'] :=
    .string (.cons (.unit h0 h0 hE h9) .nil)
  have hcount : TokenText (.number count) ['1', '.', '5', 'e', '+', '3'] :=
    .number (.mk hone nofun (.some hfive) (.some (.inl rfl) hplus hthree))
  have hcode : TokenText (.number zero) ['0'] :=
    .number (.mk hzero (fun _ => rfl) .none .none)
  have hname : ∀ name, TokenText (.string (Json.written name))
      (quoteChars name) := Json.quoted_text
  have hspace : ' ' ∈ Json.blanks := by decide
  have hline : '\n' ∈ Json.blanks := by decide
  -- the text, token by token, with a blank where it has one
  have htext := Spaced.token .openBrace (.blank hspace
    (.token (hname "data".toList) (.token .colon (.blank hspace
      (.token hletter (.token .comma (.token (hname "trace".toList)
        (.token .colon (.token .openBracket (.token hcount
          (.token .closeBracket (.token .comma (.blank hline
            (.token (hname "code".toList) (.token .colon (.token hcode
              (.token .closeBrace .nil)))))))))))))))))
  refine ⟨[(Json.written "data".toList, .string [.unit 0xE9]),
      (Json.written "trace".toList, .array [.number count]),
      (Json.written "code".toList, .number zero)], _, htext,
    .cons (.written _) (.cons (.written _) (.cons (.written _) .nil)), ?_⟩
  have hspells : Spells [.unit 0xE9] ['é'] :=
    .unit (c := 'é') (by decide) .nil
  exact {
    distinct := by decide
    code := ⟨.number zero, by simp,
      .int ⟨rfl, rfl, rfl, rfl, by decide, by decide⟩⟩
    message := fun d hmem => by simp at hmem
    carried := fun j hj => by
      refine ⟨.string [.unit 0xE9], by simp, ?_⟩
      rw [← Option.some.inj hj]
      exact .string (by rwa [String.toList_ofList])
    missing := nofun }

/-- It is unwrapped behind any status of a success, as 201. -/
theorem shuffled_gives_data :
    (fetch .get "/system/info" none none).Resolves
      ⟨.get, "/system/info", none, none, .value .json⟩
      (.response 201 (Text.encodeChars shuffled))
      (.ok (.str (String.ofList ['é']))) :=
  (success_gives_data shuffled_successText
    (fun j hj => by rw [← Option.some.inj hj]; decide) rfl (by decide)).1
      .get "/system/info" none none

end Console
end SecurityConsole
