import StructureGrader.Feedback
import StructureGrader.Json.Value
import StructureGrader.Report.Metrics

/-!
# The report on a comparison

`Report.of` puts together what a comparison found, the figures, and the suggestions for every
element; `Report.toJson` is the report as a JSON value.
-/

namespace StructureGrader

variable {α β : Type}

/-- An element with its outcome. -/
structure Graded (α : Type) where
  element : Element
  outcome : Outcome α
deriving Repr

/-- A pair in a report. -/
structure PairEntry (α : Type) where
  kind : ElementKind
  student : Graded α
  reference : Graded α
  similarity : α
  differences : List String
  suggestion : Suggestion
deriving Repr

/-- An element left over, in a report. -/
structure RestEntry (α : Type) where
  element : Graded α
  suggestion : Suggestion
deriving Repr

/-- The report on a comparison. -/
structure Report (α : Type) where
  pairs : List (PairEntry α)
  extra : List (RestEntry α)
  missing : List (RestEntry α)
  metrics : Metrics α
deriving Repr

namespace Report

variable [ScoreNumber α]

/-- An element with the outcome that is left on it. -/
def graded (view : β → Element) (outcomes : Outcomes α β) (x : β) : Graded α :=
  ⟨view x, outcomes x⟩

/-- The entry of a pair; the suggestion is for the element of the submission. -/
def pairEntry (view : β → Element) (outcomes : Outcomes α β) (p : Pairing α β) : PairEntry α :=
  let differences := p.differences.map Difference.text
  { kind := (view p.reference).kind
    student := graded view outcomes p.student
    reference := graded view outcomes p.reference
    similarity := p.similarity
    differences := differences
    suggestion := suggest (view p.student) (outcomes p.student) differences }

/-- The entry of an element left over. -/
def restEntry (view : β → Element) (outcomes : Outcomes α β) (x : β) : RestEntry α :=
  ⟨graded view outcomes x, suggest (view x) (outcomes x) []⟩

/-- The report on a comparison, given the outcomes that it has left. -/
def of (view : β → Element) (outcomes : Outcomes α β) (s : Summary α β) : Report α :=
  { pairs := s.pairings.map (pairEntry view outcomes)
    extra := s.unmatchedStudents.map (restEntry view outcomes)
    missing := s.unmatchedReferences.map (restEntry view outcomes)
    metrics := collectMetrics view outcomes s }

end Report

/-! ## JSON -/

/-- A count as JSON. -/
def Json.nat (n : Nat) : Json := .int (Int.ofNat n)

/-- An element and its outcome as JSON. -/
def Graded.toJson (number : α → Json) (g : Graded α) : Json :=
  .object [("name", .ofText? g.element.name), ("kind", .text g.element.kind.name),
    ("signature", .ofText? g.element.signature), ("source_code", .ofText? g.element.source),
    ("line_number", .int g.element.line), ("file_name", .text g.element.file),
    ("package_name", .text g.element.package), ("matched", .bool g.outcome.matched),
    ("match_type", .ofText? (g.outcome.matchType.map MatchType.name)),
    ("similarity", number g.outcome.similarity)]

/-- Suggestions as JSON. -/
def Suggestion.toJson (s : Suggestion) : Json :=
  .object [("suggested_score", .int s.score), ("suggested_comments", .texts s.comments),
    ("suggested_design_pattern_feedback", .text s.designPattern),
    ("suggested_best_practices_feedback", .text s.bestPractices)]

/-- Figures as JSON. -/
def Metrics.toJson (number : α → Json) (m : Metrics α) : Json :=
  .object [("overall_similarity", number m.overall), ("prediction", .text m.prediction.text),
    ("total_student_elements", .nat m.totalStudents),
    ("total_reference_elements", .nat m.totalReferences), ("matched_elements", .nat m.matched),
    ("mean_match_similarity", number m.meanSimilarity),
    ("median_match_similarity", number m.medianSimilarity),
    ("percent_matches_above_90", number m.shareAbove90),
    ("per_kind", .object (m.perKind.map fun (kind, c) =>
      (kind.name, .object [("matched", .nat c.matched), ("extra", .nat c.extra),
        ("missing", .nat c.missing)]))),
    ("match_types", .object [(MatchType.exact.name, .nat m.matchTypes.exact),
      (MatchType.similar.name, .nat m.matchTypes.similar),
      (MatchType.missing.name, .nat m.matchTypes.missing),
      (MatchType.extra.name, .nat m.matchTypes.extra)])]

namespace Report

/-- The totals and lists of a report as JSON; `suggestions` says whether the suggestions are part of
them. -/
def fields (number : α → Json) (suggestions : Bool) (r : Report α) : List (String × Json) :=
  let suggestion (s : Suggestion) : List (String × Json) :=
    if suggestions then [("suggestion", s.toJson)] else []
  let pair (p : PairEntry α) : Json :=
    .object ([("kind", .text p.kind.name), ("student_element", p.student.toJson number),
      ("reference_element", p.reference.toJson number), ("similarity", number p.similarity),
      ("differences", .texts p.differences)] ++ suggestion p.suggestion)
  let rest (e : RestEntry α) : Json :=
    match e.element.toJson number with
    | .object fs => .object (fs ++ suggestion e.suggestion)
    | j => j
  [("overall_similarity", number r.metrics.overall),
    ("total_student_elements", .nat r.metrics.totalStudents),
    ("total_reference_elements", .nat r.metrics.totalReferences),
    ("matched_elements", .nat r.metrics.matched),
    ("matches", .list (r.pairs.map pair)),
    ("unmatched_student", .list (r.extra.map rest)),
    ("unmatched_reference", .list (r.missing.map rest))]

/-- The summary of a comparison as JSON, without figures and suggestions. -/
def summaryJson (number : α → Json) (r : Report α) : Json :=
  .object (r.fields number false)

/-- The whole report as JSON. -/
def toJson (number : α → Json) (r : Report α) : Json :=
  .object (r.fields number true ++ [("metrics", r.metrics.toJson number)])

end Report

end StructureGrader
