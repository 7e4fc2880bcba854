import StructureGrader.Number.Fixed
import StructureGrader.Report.Document

/-!
# The overview that a command prints
-/

namespace StructureGrader.CommandLine

/-- A text with spaces behind it up to a width. -/
def padRight (width : Nat) (s : String) : String :=
  s ++ String.ofList (List.replicate (width - s.length) ' ')

/-- A number with spaces in front of it up to a width. -/
def padLeft (width n : Nat) : String :=
  String.ofList (List.replicate (width - (toString n).length) ' ') ++ toString n

/-- The signature of an element as the overview shows it. -/
def shownSignature (e : Element) : String :=
  e.signature.getD "None"

/-- The lines of the overview. -/
def overviewLines (r : Report Float) : List String :=
  let m := r.metrics
  let counts (row : ElementKind × KindCounts) : String :=
    "  " ++ padRight 12 row.1.name ++ " matched " ++ padLeft 3 row.2.matched ++
      "  missing " ++ padLeft 3 row.2.missing ++ "  extra " ++ padLeft 3 row.2.extra
  let difference (p : PairEntry Float) : Option String :=
    if p.differences.isEmpty then none
    else
      some ("  ~ " ++ shownSignature p.reference.element ++ ": " ++
        ", ".intercalate p.differences)
  let rest (mark : String) (e : RestEntry Float) : String :=
    mark ++ e.element.element.kind.noun ++ ": " ++ shownSignature e.element.element
  ["Java Structure Grader", "=====================",
    "Overall similarity: " ++ Number.percentText m.overall ++ " (" ++ m.prediction.text ++ ")",
    "Matched elements:   " ++ toString m.matched ++ "/" ++ toString m.totalStudents ++
      " student, " ++ toString m.totalReferences ++ " reference"] ++
  m.perKind.map counts ++ r.pairs.filterMap difference ++
  r.missing.map (rest "  - missing ") ++ r.extra.map (rest "  + extra ")

/-- The overview of a report. -/
def overview (r : Report Float) : String :=
  String.join ((overviewLines r).map (· ++ "\n"))

end StructureGrader.CommandLine
