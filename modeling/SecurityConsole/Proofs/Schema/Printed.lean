/-
Records that are kept as text inside other messages.

The text that is printed for a record names each field at most once, so
reading it as a record of these fields finds all of its members
(`Document.known?_of_denote`), and what is read is what would be read from
the JSON itself (`Schema.ofString?_print`).
-/
import SecurityConsole.Schema.Reader
import SecurityConsole.Proofs.Json.Printing
import SecurityConsole.Proofs.Schema.Members

namespace SecurityConsole

namespace Json.Document

/-- A member of a new name that is known is read behind the others. -/
theorem known?_cons {names : List String} {depth : Nat} {ps : Pieces}
    {d : Document} {ms : List (Pieces × Document)} {name : String}
    {j : Json} {acc : List (String × Json)} (hname : string? ps = some name)
    (hknown : name ∈ names) (hfresh : name ∉ acc.map Prod.fst)
    (hj : toJson? depth d = some j) :
    known? names depth ((ps, d) :: ms) acc
      = known? names depth ms (acc ++ [(name, j)]) := by
  rw [known?, hname]
  simp [hknown, lookup_eq_none_of_fresh hfresh, hj]

/-- Of a document whose names are all known, all members are read. -/
theorem known?_of_denote {names : List String} {depth : Nat}
    {ms : List (Pieces × Document)} : ∀ {vs : List (String × Json)},
      MembersDenote ms vs → (∀ m ∈ vs, m.1 ∈ names) →
        membersNesting vs ≤ depth → ∀ acc : List (String × Json),
          ((acc ++ vs).map Prod.fst).Nodup →
            known? names depth ms acc = some (acc ++ vs) := by
  induction ms with
  | nil =>
      intro vs hdenote _ _ acc _
      cases hdenote
      rw [known?, List.append_nil]
  | cons m ms ih =>
      intro vs hdenote hknown hdepth acc hnames
      cases hdenote with
      | @cons ps name d j _ vs hname h k =>
          obtain ⟨hfirst, hlast⟩ := Nat.max_le.1 hdepth
          have hfresh : name ∉ acc.map Prod.fst := by
            intro hmem
            rw [List.map_append, List.nodup_append] at hnames
            exact hnames.2.2 name hmem name List.mem_cons_self rfl
          have hsplit : acc ++ (name, j) :: vs = (acc ++ [(name, j)]) ++ vs :=
            List.append_cons acc (name, j) vs
          rw [hsplit] at hnames ⊢
          rw [known?_cons (string?_of_spells hname)
            (hknown (name, j) List.mem_cons_self) hfresh
            (toJson?_of_denotes h hfirst)]
          exact ih k (fun m hm => hknown m (List.mem_cons_of_mem _ hm)) hlast
            _ hnames

end Json.Document

open Json (Document)

/-- A record that is printed is read like its JSON. -/
theorem Schema.ofString?_print {joined : Bool} {fs : Fields}
    {v : fs.Value} (hplain : (Json.obj (fs.encode v)).Plain)
    (hdepth : (Json.obj (fs.encode v)).nesting ≤ Document.nestingLimit) :
    (Schema.record joined fs).ofString? (Json.obj (fs.encode v)).print
      = fs.decodeNamed (fs.encode v) := by
  obtain ⟨d, hdenotes, htext⟩ := Json.exists_text hplain
  have hread : Document.ofString? (Json.obj (fs.encode v)).print
      = some d := by
    refine Document.ofString?_of_hasText ?_
    unfold Json.print
    rwa [String.toList_ofList]
  cases hdenotes with
  | @object ms vs hmembers hdistinct =>
      have hknown : Document.known? fs.names (Document.nestingLimit - 1) ms []
          = some (fs.encode v) := by
        refine Document.known?_of_denote hmembers ?_ ?_ [] hdistinct
        · exact fun m hm => (fs.names_encode v).mem (List.mem_map_of_mem hm)
        · rw [Json.nesting] at hdepth
          omega
      have hrecord : (Document.object ms).recordJson? fs.names
          = some (.obj (fs.encode v)) := by
        rw [Document.recordJson?, hknown]
        rfl
      show (Document.ofString? _).bind (Schema.record joined fs).ofDocument?
        = _
      rw [hread]
      show ((Document.object ms).recordJson? fs.names).bind _ = _
      rw [hrecord]
      rfl

end SecurityConsole
