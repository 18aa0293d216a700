/-
Records that are written just as they were read.

Texts, truth values, integers and lists of these are written as they were
read (`Schema.encode_of_verbatim`). A record of such fields is written
with every field that was there as it was (`Fields.lookup_written`). It may
have been written as an array: that is read as if it were written by names
(`Fields.decodeNamed_zip`).
-/
import SecurityConsole.Proofs.Schema.RoundTrip

namespace SecurityConsole

/-- Whether a shape is written just as it was read: not so numbers of
double precision, choices of names, options, and records. -/
def Schema.verbatim : Schema → Bool
  | .text | .bool | .int .. | .json => true
  | .list s => s.verbatim
  | _ => false

namespace Schema

/-- What undoes the reading of an item undoes that of a list. -/
theorem map_of_mapM {α β : Type} {f : β → Option α} {g : α → β}
    (h : ∀ y x, f y = some x → g x = y) : ∀ {items : List β} {read : List α},
      items.mapM f = some read → read.map g = items := by
  intro items
  induction items with
  | nil => intro read hread; cases hread; rfl
  | cons y items ih =>
      intro read hread
      obtain ⟨x, rest, hy, hrest, rfl⟩ := of_mapM_cons hread
      rw [List.map_cons, h y x hy, ih hrest]

/-- A verbatim value is written just as it was read. -/
theorem encode_of_verbatim : ∀ {s : Schema} {j : Json} {v : s.Value},
    s.verbatim = true → s.decode j = some v → s.encode v = j
  | .text, j, v, _, h => by
      cases j with
      | str text => cases h; rfl
      | _ => cases h
  | .bool, j, v, _, h => by
      cases j with
      | bool b => cases h; rfl
      | _ => cases h
  | .int lo hi, j, v, _, h => by
      cases j with
      | int n =>
          by_cases hn : lo ≤ n ∧ n ≤ hi
          · cases (dif_pos hn).symm.trans h
            rfl
          · cases (dif_neg hn).symm.trans h
      | _ => cases h
  | .json, j, v, _, h => by cases h; rfl
  | .list s, j, v, hs, h => by
      cases j with
      | arr items =>
          exact congrArg Json.arr (map_of_mapM
            (fun y x hx => encode_of_verbatim (s := s) hs hx) h)
      | _ => cases h
  | .real, _, _, hs, _ => absurd hs Bool.false_ne_true
  | .oneOf _, _, _, hs, _ => absurd hs Bool.false_ne_true
  | .optional _, _, _, hs, _ => absurd hs Bool.false_ne_true
  | .record .., _, _, hs, _ => absurd hs Bool.false_ne_true

end Schema

namespace Fields

/-- Whether all fields of a record are verbatim and always written, under
distinct names. -/
def verbatim : Fields → Bool
  | .nil => true
  | .cons name rule value rest =>
    rule.written = .always && name ∉ rest.names && value.verbatim
      && verbatim rest

theorem names_nodup_of_verbatim : ∀ {fs : Fields}, fs.verbatim = true →
    fs.names.Nodup
  | .nil, _ => List.nodup_nil
  | .cons name rule value rest, h => by
      rw [verbatim] at h
      simp only [Bool.and_eq_true, decide_eq_true_eq] at h
      exact List.nodup_cons.2 ⟨h.1.1.2, names_nodup_of_verbatim h.2⟩

/-- A field that was there is written as it was. -/
theorem lookup_written {members : List (String × Json)} {name : String}
    {j : Json} (hthere : members.lookup name = some j) :
    ∀ {fs : Fields} {v : fs.Value}, fs.verbatim = true →
      fs.decodeNamed members = some v → name ∈ fs.names →
      (fs.encode v).lookup name = some j
  | .nil, _, _, _, hname => by cases hname
  | .cons first rule value rest, (v, r), hfs, h, hname => by
      rw [verbatim] at hfs
      simp only [Bool.and_eq_true, decide_eq_true_eq] at hfs
      obtain ⟨⟨⟨hwritten, hfresh⟩, hvalue⟩, hrest⟩ := hfs
      rw [decodeNamed] at h
      split at h
      · rename_i hv hr
        cases h
        by_cases heq : name = first
        · subst heq
          rw [hthere] at hv
          have hkept : value.leftOut rule v = false := by
            simp [Schema.leftOut, hwritten]
          rw [lookup_encode_cons v r hfresh, hkept]
          exact congrArg some (Schema.encode_of_verbatim hvalue hv)
        · rw [lookup_encode_rest v r heq]
          exact lookup_written hthere hrest hr
            ((List.mem_cons.1 hname).resolve_left heq)
      · cases h

/-- What stands under the names of the fields in a record, whether it is
written by names or as an array. -/
def members (fs : Fields) : Json → List (String × Json)
  | .obj ms => ms
  | .arr items => fs.names.zip items
  | _ => []

/-- A record that is written as an array is read as if it were written by
names. -/
theorem decodeNamed_zip : ∀ {fs : Fields} {items : List Json} {v : fs.Value},
    fs.names.Nodup → fs.decodeItems items = some v →
      fs.decodeNamed (fs.names.zip items) = some v
  | .nil, items, v, _, h => by
      cases items with
      | nil => exact h
      | cons j items => cases h
  | .cons name rule value rest, [], v, hnames, h => by
      rw [decodeItems] at h
      split at h
      · rename_i x r hx hr
        cases h
        -- what is missing at the end of an array is missing by name
        have hothers : rest.decodeNamed [] = some r := by
          rw [← decodeNamed_zip (List.nodup_cons.1 hnames).2 hr,
            List.tail_nil, List.zip_nil_right]
        have hmissing : rule.missing = .blank ∧ value.blank? = some x := by
          simpa using hx
        rw [List.zip_nil_right, decodeNamed, hothers]
        simp only [List.lookup_nil, hmissing]
        rfl
      · cases h
  | .cons name rule value rest, j :: items, v, hnames, h => by
      obtain ⟨hname, hrest⟩ := List.nodup_cons.1 hnames
      rw [decodeItems] at h
      split at h
      · rename_i x r hx hr
        cases h
        have hothers : rest.decodeNamed ((name, j) :: rest.names.zip items)
            = some r := by
          rw [← decodeNamed_zip hrest hr]
          refine decodeNamed_congr fun n hn => ?_
          have hne : n ≠ name := by
            rintro rfl
            exact hname hn
          rw [List.lookup_cons, beq_eq_false_iff_ne.2 hne]
          rfl
        rw [names, List.zip_cons_cons, decodeNamed, hothers,
          List.lookup_cons_self]
        simp only [hx]
      · cases h

/-- However a record was written, reading it is reading its members by
their names. -/
theorem decodeNamed_members {fs : Fields} {j : Json} {v : fs.Value}
    {joined : Bool} (hnames : fs.names.Nodup)
    (h : (Schema.record joined fs).decode j = some v) :
    fs.decodeNamed (fs.members j) = some v := by
  cases j with
  | obj ms => exact h
  | arr items =>
      cases joined with
      | false => exact decodeNamed_zip hnames h
      | true => cases h
  | _ => cases h

end Fields

end SecurityConsole
