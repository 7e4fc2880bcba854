import StructureGrader.Proofs.Report.Escaped

/-!
# The page as a template that is filled in

The page of a report is a template with holes for the values, and the template depends on nothing
but how many rows and differences there are (`Shape`, `parts_ofReport`). So every text that comes
from a submission stands in a hole, escaped.

Tags are found by reading the text from left to right (`Mode`). No hole is inside a tag, unless it is
inside the quotes around an attribute (`settled_template`), and there, as between tags, a written value
changes nothing (`Mode.read_escape`). So the tags of a page are those of its template
(`tagsOf_text`), and `text_holds_no_markup` sums up.
-/

namespace StructureGrader.Page

/-! ## Templates -/

/-- A part of a template: text that is written as it is, or a hole for a value. -/
inductive Part
  | literal (text : String)
  | hole
deriving DecidableEq, Repr

/-- The text of a template with values in its holes, in order. -/
def fill : List Part → List String → String
  | [], _ => ""
  | .literal t :: ps, vs => t ++ fill ps vs
  | .hole :: ps, [] => fill ps []
  | .hole :: ps, v :: vs => escape v ++ fill ps vs

/-- The characters of each part, where it has any. -/
def outline (ps : List Part) : List (Option (List Char)) :=
  ps.map fun
    | .literal t => some t.toList
    | .hole => none

/-- What a piece is in the template. -/
def Piece.part : Piece → Part
  | .markup t => .literal t
  | .value _ => .hole

/-- The value in a piece, if it is one. -/
def Piece.value? : Piece → Option String
  | .markup _ => none
  | .value v => some v

/-- The pieces of a page are its template and the values for it. -/
theorem fill_parts (pieces : List Piece) :
    fill (pieces.map Piece.part) (pieces.filterMap Piece.value?) = render pieces := by
  induction pieces with
  | nil => rfl
  | cons p pieces ih =>
    have hcons : render (p :: pieces) = p.written ++ render pieces := by
      simp [render, String.join_cons]
    rw [hcons, ← ih]
    cases p <;> rfl

/-- There is one value for each hole. -/
theorem count_hole (pieces : List Piece) :
    (pieces.map Piece.part).count .hole = (pieces.filterMap Piece.value?).length := by
  induction pieces with
  | nil => rfl
  | cons p pieces ih =>
    cases p with
    | markup t =>
      rw [List.map_cons, Piece.part, List.count_cons_of_ne (by simp), ih,
        List.filterMap_cons_none rfl]
    | value v =>
      rw [List.map_cons, Piece.part, List.count_cons_self, ih]
      rfl

/-! ## The template of the report -/

/-- How many rows a report has of each sort, and for each pair how many differences. -/
structure Shape where
  kinds : Nat
  pairs : List Nat
  missing : Nat
  extra : Nat
deriving DecidableEq, Repr

/-- The shape of a report. -/
def Shape.of (r : Report Float) : Shape where
  kinds := r.metrics.perKind.length
  pairs := r.pairs.map fun p => p.differences.length
  missing := r.missing.length
  extra := r.extra.length

/-- The body of a loop as often as it is run. -/
def repeated (n : Nat) (body : List Part) : List Part :=
  (List.replicate n body).flatten

/-- From the head of the page to the rows of the kinds. -/
def figuresPart : List Part :=
  [.hole, .literal "% &mdash; ", .hole, .literal "</p>\n  <p>Matched ", .hole,
    .literal " of ", .hole, .literal " student elements\n     (", .hole,
    .literal " reference elements).\n     Median match similarity: ", .hole,
    .literal (".</p>\n\n  <h2>By element kind</h2>\n  <table>\n" ++
      "    <tr><th>Kind</th><th>Matched</th><th>Missing</th><th>Extra</th></tr>\n    ")]

/-- The row of a kind. -/
def kindPart : List Part :=
  [.literal "\n    <tr><td>", .hole, .literal "</td><td>", .hole, .literal "</td><td>", .hole,
    .literal "</td><td>", .hole, .literal "</td></tr>\n    "]

/-- From the rows of the kinds to those of the pairs. -/
def pairsPart : List Part :=
  [.literal ("\n  </table>\n\n  <h2>Matches</h2>\n  <table>\n" ++
    "    <tr><th>Student</th><th>Reference</th><th>Similarity</th><th>Differences</th>" ++
    "<th>Suggested score</th></tr>\n    ")]

/-- The cell of an element. -/
def cellPart : List Part :=
  [.literal "      <td><code>", .hole, .literal "</code><br>", .hole, .literal ":", .hole,
    .literal "</td>\n"]

/-- The beginning of the row of a pair. -/
def markPart : List Part :=
  [.literal "\n    <tr class=\"", .hole, .literal "\">\n"]

/-- The cell of a similarity and the beginning of the cell of differences. -/
def similarityPart : List Part :=
  [.literal "      <td>", .hole, .literal "%</td>\n      <td>"]

/-- A difference. -/
def differencePart : List Part :=
  [.hole, .literal "<br>"]

/-- The end of the row of a pair. -/
def scorePart : List Part :=
  [.literal "</td>\n      <td>", .hole, .literal "</td>\n    </tr>\n    "]

/-- The row of a pair with so many differences. -/
def pairPart (differences : Nat) : List Part :=
  markPart ++ cellPart ++ cellPart ++ similarityPart ++ repeated differences differencePart ++
    scorePart

/-- The row of an element left over. -/
def restPart (mark : String) : List Part :=
  [.literal ("\n    <tr class=\"" ++ mark ++ "\"><td>"), .hole, .literal "</td><td><code>", .hole,
    .literal "</code></td><td>", .hole, .literal "</td><td>", .hole, .literal ":", .hole,
    .literal "</td></tr>\n    "]

/-- The heading of the table of the elements left over on one side. -/
def restsPart (title : String) : List Part :=
  [.literal ("  <h2>" ++ title ++ "</h2>\n  <table>\n" ++
    "    <tr><th>Kind</th><th>Signature</th><th>Package</th><th>Location</th></tr>\n    ")]

/-- The table of so many elements left over. -/
def restTablePart (title mark : String) (rows : Nat) : List Part :=
  restsPart title ++ repeated rows (restPart mark) ++ [.literal "\n  </table>\n"]

/-- The template of the report, with its loops run as often as the shape says. -/
def template (s : Shape) : List Part :=
  [.literal head] ++ figuresPart ++ repeated s.kinds kindPart ++ pairsPart ++
    s.pairs.flatMap pairPart ++ [.literal "\n  </table>\n\n"] ++
    restTablePart "Missing from student code" "MISSING" s.missing ++ [.literal "\n"] ++
    restTablePart "Extra in student code" "EXTRA" s.extra ++ [.literal "</body>\n</html>"]

section Rows

variable {γ : Type}

/-- Rows that are all filled into one body. -/
theorem parts_flatMap (row : γ → List Piece) (body : List Part)
    (h : ∀ x, (row x).map Piece.part = body) (xs : List γ) :
    (xs.flatMap row).map Piece.part = repeated xs.length body := by
  induction xs with
  | nil => rfl
  | cons x xs ih =>
    rw [List.flatMap_cons, List.map_append, h, ih]
    rfl

/-- The parts of a pair's row depend on the number of its differences only. -/
theorem parts_pairRow (p : PairEntry Float) :
    (pairRow p).map Piece.part = pairPart p.differences.length := by
  have hdifferences := parts_flatMap (fun d => [.value d, .markup "<br>"]) differencePart
    (fun _ => rfl) p.differences
  simp only [pairRow, pairPart, List.map_append, hdifferences]
  rfl

/-- The parts of a table of leftovers depend on its title, its mark and its number of rows only. -/
theorem parts_restTable (title mark : String) (rows : List (RestEntry Float)) :
    (restTable title mark rows).map Piece.part = restTablePart title mark rows.length := by
  have hrows := parts_flatMap (restRow mark) (restPart mark) (fun _ => rfl) rows
  simp only [restTable, restTablePart, List.map_append, hrows]
  rfl

/-- The page of a report is the template of its shape, filled in. -/
theorem parts_ofReport (r : Report Float) :
    (ofReport r).map Piece.part = template (Shape.of r) := by
  have hkinds := parts_flatMap kindRow kindPart (fun _ => rfl) r.metrics.perKind
  have hpairs : (r.pairs.flatMap pairRow).map Piece.part =
      (r.pairs.map fun p => p.differences.length).flatMap pairPart := by
    simp only [List.map_flatMap, List.flatMap_map, parts_pairRow]
  simp only [ofReport, template, List.map_append, hkinds, hpairs, parts_restTable, Shape.of]
  rfl

end Rows

/-! ## Tags -/

/-- Where a reader of a page stands: between tags, in a tag, or in a quoted attribute of a tag, and
what it has read of the tag outside of quotes. -/
inductive Mode
  | text
  | tag (read : List Char)
  | inDouble (read : List Char)
  | inSingle (read : List Char)
deriving DecidableEq, Repr

namespace Mode

/-- Where the reader stands after one more character. -/
def step : Mode → Char → Mode
  | .text, c => if c = '<' then .tag [] else .text
  | .tag w, c =>
    if c = '>' then .text
    else if c = '"' then .inDouble (w ++ [c])
    else if c = '\'' then .inSingle (w ++ [c])
    else .tag (w ++ [c])
  | .inDouble w, c => if c = '"' then .tag (w ++ [c]) else .inDouble w
  | .inSingle w, c => if c = '\'' then .tag (w ++ [c]) else .inSingle w

/-- The tag that ends with a character. -/
def ended? : Mode → Char → Option String
  | .tag w, c => if c = '>' then some (String.ofList w) else none
  | _, _ => none

/-- Where the reader stands after a text. -/
def read (m : Mode) (cs : List Char) : Mode :=
  cs.foldl step m

/-- The tags that end in a text, each without what stands between its quotes. -/
def tags : Mode → List Char → List String
  | _, [] => []
  | m, c :: cs => (m.ended? c).toList ++ (m.step c).tags cs

/-- Where the reader stands after a template whose holes are passed over; there is no such place
when a hole stands in a tag outside of quotes. -/
def settle : Mode → List (Option (List Char)) → Option Mode
  | m, [] => some m
  | m, some cs :: ps => (m.read cs).settle ps
  | .tag _, none :: _ => none
  | m, none :: ps => m.settle ps

/-- The tags that end in a template whose holes are passed over. -/
def tagsOutside : Mode → List (Option (List Char)) → List String
  | _, [] => []
  | m, some cs :: ps => m.tags cs ++ (m.read cs).tagsOutside ps
  | m, none :: ps => m.tagsOutside ps

/-- The tags of a text are those of its front and then those read on from there. -/
theorem tags_append (m : Mode) (xs ys : List Char) :
    m.tags (xs ++ ys) = m.tags xs ++ (m.read xs).tags ys := by
  induction xs generalizing m with
  | nil => rfl
  | cons x xs ih => simp only [List.cons_append, tags, ih, List.append_assoc]; rfl

/-- Between tags and in quotes, a character that is neither a bracket nor a quote is passed over. -/
theorem step_plain {m : Mode} (hm : ∀ w, m ≠ .tag w) {c : Char}
    (hc : c ≠ '<' ∧ c ≠ '>' ∧ c ≠ '"' ∧ c ≠ '\'') : m.step c = m ∧ m.ended? c = none := by
  obtain ⟨hopen, -, hdouble, hsingle⟩ := hc
  cases m with
  | text => exact ⟨if_neg hopen, rfl⟩
  | tag w => exact absurd rfl (hm w)
  | inDouble w => exact ⟨if_neg hdouble, rfl⟩
  | inSingle w => exact ⟨if_neg hsingle, rfl⟩

/-- Between tags and in quotes, a text without brackets and quotes is passed over. -/
theorem read_plain {m : Mode} (hm : ∀ w, m ≠ .tag w) {cs : List Char}
    (h : ∀ c ∈ cs, c ≠ '<' ∧ c ≠ '>' ∧ c ≠ '"' ∧ c ≠ '\'') : m.read cs = m ∧ m.tags cs = [] := by
  induction cs with
  | nil => exact ⟨rfl, rfl⟩
  | cons c cs ih =>
    obtain ⟨hc, hcs⟩ := List.forall_mem_cons.1 h
    obtain ⟨hstep, hended⟩ := step_plain hm hc
    obtain ⟨hread, htags⟩ := ih hcs
    constructor
    · rw [read, List.foldl_cons, hstep]
      exact hread
    · rw [tags, hstep, hended, htags]
      rfl

/-- Between tags and in quotes, a written value is passed over. -/
theorem read_escape {m : Mode} (hm : ∀ w, m ≠ .tag w) (v : String) :
    m.read (escape v).toList = m ∧ m.tags (escape v).toList = [] := by
  rw [escape, String.toList_ofList]
  exact read_plain hm fun c hc => escape_ne_special hc

/-- Whatever stands in the holes of a template, its tags stay the same. -/
theorem tags_fill {m after : Mode} {ps : List Part} (h : m.settle (outline ps) = some after)
    (vs : List String) : m.tags (fill ps vs).toList = m.tagsOutside (outline ps) := by
  induction ps generalizing m vs with
  | nil => rfl
  | cons p ps ih =>
    cases p with
    | literal t =>
      rw [fill, String.toList_append, tags_append, ih h]
      rfl
    | hole =>
      have hm : ∀ w, m ≠ .tag w := by
        rintro w rfl
        exact nomatch h
      have hrest : m.settle (outline ps) = some after := by
        cases m with
        | tag w => exact absurd rfl (hm w)
        | _ => exact h
      cases vs with
      | nil => exact ih hrest []
      | cons v vs =>
        obtain ⟨hread, htags⟩ := read_escape hm v
        rw [fill, String.toList_append, tags_append, hread, htags, ih hrest]
        rfl

/-- A template settles where its back settles from where its front did. -/
theorem settle_append {m middle : Mode} {ps qs : List (Option (List Char))}
    (h : m.settle ps = some middle) : m.settle (ps ++ qs) = middle.settle qs := by
  induction ps generalizing m with
  | nil =>
    cases h
    rfl
  | cons p ps ih =>
    cases p with
    | some cs => exact ih h
    | none =>
      cases m with
      | tag w => exact nomatch h
      | _ => exact ih h

end Mode

/-- A template that begins and ends between tags, with no hole in a tag outside of quotes. -/
def Settled (ps : List Part) : Prop :=
  Mode.text.settle (outline ps) = some .text

/-- Two settled templates, one behind the other, are settled. -/
theorem Settled.append {ps qs : List Part} (hps : Settled ps) (hqs : Settled qs) :
    Settled (ps ++ qs) := by
  rw [Settled, outline, List.map_append]
  exact (Mode.settle_append hps).trans hqs

/-- A settled template is so when repeated. -/
theorem Settled.repeated {body : List Part} (h : Settled body) (n : Nat) :
    Settled (repeated n body) := by
  induction n with
  | zero => rfl
  | succ n ih => exact h.append ih

/-- Settled templates, one for each member of a list, are settled together. -/
theorem Settled.flatMap {γ : Type} {body : γ → List Part} (h : ∀ x, Settled (body x))
    (xs : List γ) : Settled (xs.flatMap body) := by
  induction xs with
  | nil => rfl
  | cons x xs ih => exact (h x).append ih

/-- A text that is written out is read by its characters. -/
theorem toList_of {s : String} {cs : List Char} (h : s = String.ofList cs) : s.toList = cs := by
  rw [h, String.toList_ofList]

/-- The head of the page is settled. -/
theorem settled_head : Settled [.literal head] := by
  show some (Mode.text.read head.toList) = some .text
  unfold head
  simp only [String.toList_append, -String.reduceAppend, -String.reduceToList]
  repeat rw [toList_of rfl]
  decide +kernel

/-- Each loop body and what stands around the loops, read by its characters. -/
theorem settled_parts : Settled figuresPart ∧ Settled kindPart ∧ Settled pairsPart ∧
    Settled markPart ∧ Settled cellPart ∧ Settled similarityPart ∧ Settled differencePart ∧
    Settled scorePart ∧ Settled [.literal "\n  </table>\n\n"] ∧
    Settled [.literal "\n  </table>\n"] ∧ Settled [.literal "\n"] ∧
    Settled [.literal "</body>\n</html>"] := by
  simp only [Settled, outline, figuresPart, kindPart, pairsPart, markPart, cellPart, similarityPart,
    differencePart, scorePart, List.map, String.toList_append, -String.reduceAppend,
    -String.reduceToList]
  repeat rw [toList_of rfl]
  decide +kernel

/-- The tables of leftovers and their rows are settled. -/
theorem settled_rests :
    Settled (restsPart "Missing from student code") ∧ Settled (restPart "MISSING") ∧
      Settled (restsPart "Extra in student code") ∧ Settled (restPart "EXTRA") := by
  simp only [Settled, outline, restsPart, restPart, List.map, String.toList_append,
    -String.reduceAppend, -String.reduceToList]
  repeat rw [toList_of rfl]
  decide +kernel

/-- No hole of the template stands in a tag outside of quotes. -/
theorem settled_template (s : Shape) : Settled (template s) := by
  obtain ⟨hfigures, hkind, hpairs, hmark, hcell, hsimilarity, hdifference, hscore, hpairsEnd,
    hrestsEnd, hgap, hend⟩ := settled_parts
  obtain ⟨hmissings, hmissing, hextras, hextra⟩ := settled_rests
  have hpair : ∀ n, Settled (pairPart n) := fun n =>
    ((((hmark.append hcell).append hcell).append hsimilarity).append
      (hdifference.repeated n)).append hscore
  have hupToPairs := (((settled_head.append hfigures).append (hkind.repeated s.kinds)).append
    hpairs).append (Settled.flatMap hpair s.pairs)
  have hmissingTable := (hmissings.append (hmissing.repeated s.missing)).append hrestsEnd
  have hextraTable := (hextras.append (hextra.repeated s.extra)).append hrestsEnd
  exact ((((hupToPairs.append hpairsEnd).append hmissingTable).append hgap).append
    hextraTable).append hend

/-! ## The page -/

/-- The values that stand in the page of a report, in order. -/
def values (r : Report Float) : List String :=
  (ofReport r).filterMap Piece.value?

/-- The tags of a page, each without what stands between its quotes. -/
def tagsOf (page : String) : List String :=
  Mode.text.tags page.toList

/-- The page of a report is its template with its values filled in. -/
theorem text_eq_fill (r : Report Float) : text r = fill (template (Shape.of r)) (values r) := by
  rw [text, values, ← parts_ofReport, fill_parts]

/-- The tags of a page are those of its template. -/
theorem tagsOf_text (r : Report Float) :
    tagsOf (text r) = Mode.text.tagsOutside (outline (template (Shape.of r))) := by
  rw [tagsOf, text_eq_fill]
  exact Mode.tags_fill (settled_template _) _

/-- The page of a report is its template with the values escaped in its holes, one for each. A value
as it is written holds no bracket and no quote, and an ampersand only where an entity begins, and it
stands for the value. So reports of one shape have pages with the same tags. -/
theorem text_holds_no_markup :
    (∀ r : Report Float,
      text r = fill (template (Shape.of r)) (values r) ∧
        (template (Shape.of r)).count .hole = (values r).length) ∧
      (∀ v : String,
        (∀ c ∈ (escape v).toList, c ≠ '<' ∧ c ≠ '>' ∧ c ≠ '"' ∧ c ≠ '\'') ∧
          (∀ front back, (escape v).toList = front ++ '&' :: back →
            ∃ e ∈ entities, e.2 <+: '&' :: back) ∧
          unescape (escape v) = v) ∧
      ∀ r r' : Report Float, Shape.of r = Shape.of r' → tagsOf (text r) = tagsOf (text r') := by
  refine ⟨fun r => ⟨text_eq_fill r, ?_⟩, fun v => ⟨?_, ?_, unescape_escape v⟩, fun r r' h => ?_⟩
  · rw [← parts_ofReport, count_hole]
    rfl
  · rw [escape, String.toList_ofList]
    exact fun c hc => escape_ne_special hc
  · rw [escape, String.toList_ofList]
    exact fun front back h => entity_of_ampersand front h
  · rw [tagsOf_text, tagsOf_text, h]

/-- The report on a reference with one method, of some signature, and nothing submitted. -/
def oneMissing (signature : String) : Report Float :=
  Report.of (fun _ : Unit => ⟨some "f", .method, some signature, some "", 1, "A.java", ""⟩)
    (fun _ => .fresh) ⟨[], [], [()], 0, 0, 1⟩

/-- A signature that is a tag stands in the page as text. -/
theorem text_holds_no_markup_oneMissing :
    "<td class='a'>" ∈ values (oneMissing "<td class='a'>") ∧
      Shape.of (oneMissing "<td class='a'>") = Shape.of (oneMissing "int f()") ∧
      tagsOf (text (oneMissing "<td class='a'>")) = tagsOf (text (oneMissing "int f()")) := by
  obtain ⟨-, -, htags⟩ := text_holds_no_markup
  have hshape : Shape.of (oneMissing "<td class='a'>") = Shape.of (oneMissing "int f()") := rfl
  exact ⟨by decide +kernel, hshape, htags _ _ hshape⟩

end StructureGrader.Page
