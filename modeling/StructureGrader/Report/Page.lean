import StructureGrader.Number.Fixed
import StructureGrader.Report.Document

/-!
# The report as a web page

A page is a list of pieces: markup, which is written as it is, and values, which are written with
the five special characters escaped. Only the markup depends on the shape of the report, and only
values hold text that comes from a submission. `escape_ne_special` says that a written value holds
none of the characters that could end or start markup.
-/

namespace StructureGrader.Page

/-! ## Escaping -/

/-- A character of a value as it is written. -/
def escapeChar (c : Char) : List Char :=
  match c with
  | '&' => "&amp;".toList
  | '<' => "&lt;".toList
  | '>' => "&gt;".toList
  | '\'' => "&#39;".toList
  | '"' => "&#34;".toList
  | c => [c]

/-- The characters of a value as they are written. -/
def escapeChars (cs : List Char) : List Char :=
  cs.flatMap escapeChar

/-- A value as it is written. -/
def escape (s : String) : String :=
  String.ofList (escapeChars s.toList)

/-- A written value holds no angle bracket and no quote. -/
theorem escape_ne_special {c : Char} {cs : List Char} (h : c ∈ escapeChars cs) :
    c ≠ '<' ∧ c ≠ '>' ∧ c ≠ '"' ∧ c ≠ '\'' := by
  have of_all {w : List Char}
      (hw : (w.all fun c => c != '<' && c != '>' && c != '"' && c != '\'') = true)
      (hc : c ∈ w) : c ≠ '<' ∧ c ≠ '>' ∧ c ≠ '"' ∧ c ≠ '\'' := by
    simpa [and_assoc] using List.all_eq_true.1 hw c hc
  obtain ⟨d, _, hd⟩ := List.mem_flatMap.1 h
  unfold escapeChar at hd
  split at hd
  iterate 5
    exact of_all (by decide) hd
  next h₁ h₂ h₃ h₄ h₅ =>
    rw [List.mem_singleton] at hd
    subst hd
    exact ⟨h₂, h₃, h₅, h₄⟩

/-! ## Pieces -/

/-- A piece of a page. -/
inductive Piece
  | markup (text : String)
  | value (text : String)
deriving DecidableEq, Repr

/-- A piece as it is written. -/
def Piece.written : Piece → String
  | .markup s => s
  | .value s => escape s

/-- The text of a page. -/
def render (pieces : List Piece) : String :=
  String.join (pieces.map Piece.written)

/-! ## The report -/

/-- The page up to the figures. -/
def head : String :=
  "<!DOCTYPE html>\n<html lang=\"en\">\n<head>\n  <meta charset=\"utf-8\">\n" ++
  "  <title>Code Comparison Report</title>\n  <style>\n" ++
  "    body \x7b font-family: sans-serif; margin: 2rem; \x7d\n" ++
  "    table \x7b border-collapse: collapse; margin-bottom: 2rem; \x7d\n" ++
  "    th, td \x7b border: 1px solid #ccc; padding: 0.3rem 0.6rem; text-align: left; " ++
  "vertical-align: top; \x7d\n" ++
  "    .EXACT \x7b background: #e6f4ea; \x7d\n" ++
  "    .SIMILAR \x7b background: #fff8e1; \x7d\n" ++
  "    .MISSING \x7b background: #fdecea; \x7d\n" ++
  "    .EXTRA \x7b background: #e8eaf6; \x7d\n" ++
  "    code \x7b white-space: pre-wrap; \x7d\n" ++
  "  </style>\n</head>\n<body>\n  \n  <h1>Code Comparison Report</h1>\n" ++
  "  <p><strong>Overall similarity:</strong> "

/-- A text that may be missing, as a page shows it. -/
def shown (s : Option String) : Piece :=
  .value (s.getD "None")

/-- A whole number. -/
def natural (n : Nat) : Piece := .value (toString n)

/-- A similarity in percent without places. -/
def wholePercent (x : Float) : Piece := .value (Number.fixedText 0 (x * 100))

/-- The row of a kind. -/
def kindRow (row : ElementKind × KindCounts) : List Piece :=
  [.markup "\n    <tr><td>", .value row.1.name, .markup "</td><td>", natural row.2.matched,
    .markup "</td><td>", natural row.2.missing, .markup "</td><td>", natural row.2.extra,
    .markup "</td></tr>\n    "]

/-- The cell of an element: its signature and its place. -/
def elementCell (e : Element) : List Piece :=
  [.markup "      <td><code>", shown e.signature, .markup "</code><br>", .value e.file,
    .markup ":", .value (toString e.line), .markup "</td>\n"]

/-- The row of a pair. -/
def pairRow (p : PairEntry Float) : List Piece :=
  [.markup "\n    <tr class=\"", shown (p.student.outcome.matchType.map MatchType.name),
    .markup "\">\n"] ++
  elementCell p.student.element ++ elementCell p.reference.element ++
  [.markup "      <td>", wholePercent p.similarity, .markup "%</td>\n      <td>"] ++
  p.differences.flatMap (fun d => [.value d, .markup "<br>"]) ++
  [.markup "</td>\n      <td>", .value (toString p.suggestion.score),
    .markup "</td>\n    </tr>\n    "]

/-- The row of an element left over, marked with the name of a class of rows. -/
def restRow (mark : String) (r : RestEntry Float) : List Piece :=
  let e := r.element.element
  [.markup ("\n    <tr class=\"" ++ mark ++ "\"><td>"), .value e.kind.name,
    .markup "</td><td><code>", shown e.signature, .markup "</code></td><td>", .value e.package,
    .markup "</td><td>", .value e.file, .markup ":", .value (toString e.line),
    .markup "</td></tr>\n    "]

/-- The table of the elements left over on one side. -/
def restTable (title mark : String) (rows : List (RestEntry Float)) : List Piece :=
  [.markup ("  <h2>" ++ title ++ "</h2>\n  <table>\n" ++
    "    <tr><th>Kind</th><th>Signature</th><th>Package</th><th>Location</th></tr>\n    ")] ++
  rows.flatMap (restRow mark) ++ [.markup "\n  </table>\n"]

/-- The pieces of the page for a report. -/
def ofReport (r : Report Float) : List Piece :=
  let m := r.metrics
  [.markup head, wholePercent m.overall, .markup "% &mdash; ", .value m.prediction.text,
    .markup "</p>\n  <p>Matched ", natural m.matched, .markup " of ", natural m.totalStudents,
    .markup " student elements\n     (", natural m.totalReferences,
    .markup " reference elements).\n     Median match similarity: ",
    .value (Number.fixedText 2 m.medianSimilarity),
    .markup (".</p>\n\n  <h2>By element kind</h2>\n  <table>\n" ++
      "    <tr><th>Kind</th><th>Matched</th><th>Missing</th><th>Extra</th></tr>\n    ")] ++
  m.perKind.flatMap kindRow ++
  [.markup ("\n  </table>\n\n  <h2>Matches</h2>\n  <table>\n" ++
    "    <tr><th>Student</th><th>Reference</th><th>Similarity</th><th>Differences</th>" ++
    "<th>Suggested score</th></tr>\n    ")] ++
  r.pairs.flatMap pairRow ++
  [.markup "\n  </table>\n\n"] ++
  restTable "Missing from student code" "MISSING" r.missing ++
  [.markup "\n"] ++
  restTable "Extra in student code" "EXTRA" r.extra ++
  [.markup "</body>\n</html>"]

/-- The page for a report. -/
def text (r : Report Float) : String :=
  render (ofReport r)

end StructureGrader.Page
