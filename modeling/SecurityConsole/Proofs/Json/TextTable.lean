/-
Objects whose members are all strings: the stored user, and the file of a
storage.

Both are printed with the same tokens (`lexes_printMembers`,
`lexes_printTable`), which are those of one document
(`ofTokens?_table`). So both are read back, with the names and strings
that were printed (`ofString?_print_texts`, `ofBytes?_toBytes`). A record
of strings finds its fields in such a document (`known?_read`).
-/
import SecurityConsole.Proofs.Json.Quoted
import SecurityConsole.Storage.FileStore

namespace SecurityConsole

namespace Json

/-- Names with texts. -/
abbrev Texts := List (String × String)

/-- The members of an object, as JSON. -/
def Texts.members (es : Texts) : List (String × Json) :=
  es.map fun e => (e.1, .str e.2)

/-- The members of an object, as they are read. -/
def Texts.read (es : Texts) : List (Pieces × Document) :=
  es.map fun e => (written e.1.toList, .string (written e.2.toList))

-- ================================================================ tokens

/-- The tokens of one member. -/
def memberTokens (e : String × String) : List Token :=
  [.string (written e.1.toList), .colon, .string (written e.2.toList)]

/-- The tokens of members and the end of their object. -/
def Texts.tokens (first : Bool) : Texts → List Token
  | [] => [.closeBrace]
  | e :: rest =>
    (if first then [] else [.comma]) ++ memberTokens e ++
      Texts.tokens false rest

/-- A member is lexed as its tokens, whatever blanks stand behind the
colon. -/
theorem lexes_member (e : String × String) {blanks : List Char}
    (h : Lexes blanks []) :
    Lexes (quoteChars e.1.toList ++ [':'] ++ blanks
      ++ quoteChars e.2.toList) (memberTokens e) :=
  (((Lexes.quoted e.1.toList).append .colon).append h).append
    (.quoted e.2.toList)

/-- The printed members are lexed one by one, each but the first behind
a comma. -/
theorem lexes_printMembers (es : Texts) : ∀ first : Bool,
    Lexes (printMembers first es.members) (Texts.tokens first es) := by
  induction es with
  | nil => intro first; exact .closeBrace
  | cons e es ih =>
      intro first
      have hcomma : Lexes (if first then [] else [','])
          (if first then [] else [.comma]) := by
        cases first with
        | true => exact .nil
        | false => exact .comma
      have hmember := lexes_member e .nil
      rw [List.append_nil] at hmember
      have hall := (hcomma.append hmember).append (ih false)
      simp only [Texts.members, List.map_cons, printMembers, printChars,
        Texts.tokens, List.append_assoc] at hall ⊢
      exact hall

theorem lexes_printChars (es : Texts) :
    Lexes (printChars (.obj es.members)) (.openBrace :: es.tokens true) :=
  Lexes.openBrace.append (lexes_printMembers es true)

theorem lexes_tableLine (e : String × String) :
    Lexes (tableLine e) (memberTokens e) := by
  have hline : Lexes ['\n'] [] := .blank rfl
  have hspace : Lexes [' '] [] := .blank rfl
  have hall := ((hline.append hspace).append hspace).append
    (lexes_member e hspace)
  simpa [tableLine] using hall

/-- The lines of a table, behind the first brace or behind a comma. -/
theorem lexes_tableLines (es : Texts) : ∀ (e : String × String),
    Lexes (tableLines (e :: es) ++ ['\n', '}'])
      (memberTokens e ++ Texts.tokens false es) := by
  induction es with
  | nil =>
      intro e
      have hend : Lexes ['\n', '}'] [.closeBrace] :=
        (Lexes.blank rfl).append .closeBrace
      exact (lexes_tableLine e).append hend
  | cons f es ih =>
      intro e
      have hall := ((lexes_tableLine e).append .comma).append (ih f)
      simpa [tableLines, Texts.tokens] using hall

/-- The lines of a table are the members of the object, with other
blanks. -/
theorem lexes_printTable (es : Texts) :
    Lexes (printTable es).toList (.openBrace :: es.tokens true) := by
  cases es with
  | nil => exact Lexes.openBrace.append .closeBrace
  | cons e es =>
      have hall := Lexes.openBrace.append (lexes_tableLines es e)
      simpa [printTable, String.toList_ofList, Texts.tokens] using hall

-- =============================================================== parsing

/-- These are the tokens of the document of these members. -/
theorem Texts.tokens_eq (es : Texts) : ∀ first : Bool,
    es.tokens first = Document.memberTokens first es.read := by
  induction es with
  | nil => intro first; rfl
  | cons e es ih =>
      intro first
      show (if first then [] else [.comma]) ++ memberTokens e ++
        Texts.tokens false es = _
      rw [ih, List.append_assoc]
      rfl

/-- An object whose members are all strings is read as such. -/
theorem Document.ofTokens?_table (es : Texts) :
    Document.ofTokens? (.openBrace :: es.tokens true)
      = some (.object es.read) := by
  rw [es.tokens_eq]
  exact Document.ofTokens?_tokens (.object es.read)

-- =============================================================== reading

/-- A printed object of strings is the document of its members. -/
theorem ofString?_print_texts (es : Texts) :
    Document.ofString? (print (.obj es.members)) = some (.object es.read) := by
  unfold Document.ofString? print
  rw [String.toList_ofList, (lexes_printChars es).tokens?]
  exact Document.ofTokens?_table es

/-- The members with the names they were written for. -/
def Texts.named (es : Texts) : List (String × Document) :=
  es.map fun e => (e.1, .string (written e.2.toList))

/-- Each member is read under the name it was written for. -/
theorem Texts.read_named (es : Texts) :
    Document.NamedAs es.read es.named := by
  induction es with
  | nil => exact .nil
  | cons e es ih => exact .cons (.written e.1.toList) ih

theorem Texts.named_toJson? (depth : Nat) (text : String) :
    Document.toJson? depth (.string (written text.toList))
      = some (.str text) :=
  Document.toJson?_of_denotes (.string (.written text.toList))
    (Nat.zero_le _)

/-- A record that knows all names gets all members. -/
theorem Texts.knownValues_named {names : List String} (depth : Nat)
    (es : Texts) (hknown : ∀ e ∈ es, e.1 ∈ names) :
    Document.knownValues names depth es.named = es.members := by
  unfold Document.knownValues Texts.named Texts.members
  induction es with
  | nil => rfl
  | cons e es ih =>
      have he := hknown e List.mem_cons_self
      have hrest := ih fun x hx => hknown x (List.mem_cons_of_mem _ hx)
      simp only [List.map_cons, List.filterMap_cons, he, if_true,
        Texts.named_toJson?, Option.map_some, hrest]

/-- Members whose names are all known, and occur once, are all read. -/
theorem Document.known?_read {names : List String} (depth : Nat)
    (es : Texts) (before : List (String × Json))
    (hknown : ∀ e ∈ es, e.1 ∈ names)
    (hnodup : (before.map Prod.fst ++ es.map Prod.fst).Nodup) :
    known? names depth es.read before = some (before ++ es.members) := by
  have hnames : es.named.map Prod.fst = es.map Prod.fst := by
    simp [Texts.named]
  rw [← es.knownValues_named depth hknown]
  refine known?_of_named es.read_named before (by rwa [hnames]) ?_
  intro e he _
  obtain ⟨text, -, rfl⟩ := List.mem_map.1 he
  exact ⟨_, Texts.named_toJson? depth text.2⟩

end Json

namespace Storage

open Json (Document Texts written)

/-- And a table of texts gets all of them as texts. -/
theorem textMembers?_read (es : Texts) :
    textMembers? es.read = some es := by
  induction es with
  | nil => rfl
  | cons e es ih =>
      show textMembers? ((written e.1.toList, .string (written e.2.toList))
        :: Texts.read es) = _
      simp only [textMembers?, Json.string?_written, ih]

/-- The bytes of a file are read as the items that were written, put
together again one by one. -/
theorem Items.ofBytes?_toBytes (items : Items) :
    Items.ofBytes? items.toBytes = some (Items.ofList items) := by
  have hdoc : Document.ofBytes? items.toBytes
      = some (.object (Texts.read items)) := by
    unfold Document.ofBytes? Items.toBytes Text.encode
    rw [Text.decode_encodeChars, (Json.lexes_printTable items).tokens?]
    exact Document.ofTokens?_table items
  unfold Items.ofBytes?
  rw [hdoc]
  simp only [textMembers?_read, Option.map_some]

end Storage
end SecurityConsole
