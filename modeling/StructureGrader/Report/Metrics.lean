import StructureGrader.Comparison
import StructureGrader.Number.Average

/-!
# The figures of a comparison
-/

namespace StructureGrader

open ScoreNumber

variable {α β : Type}

/-- What the overall similarity suggests. -/
inductive Prediction
  | high
  | moderate
  | low
deriving DecidableEq, Repr

/-- The wording of a prediction. -/
def Prediction.text : Prediction → String
  | .high => "High similarity — closely follows the reference solution"
  | .moderate => "Moderate similarity — partial implementation of the reference structure"
  | .low => "Low similarity — structure differs substantially from the reference"

/-- The prediction for an overall similarity. -/
def predict [ScoreNumber α] (overall : α) : Prediction :=
  if decimal 75 2 ≤ overall then .high
  else if decimal 40 2 ≤ overall then .moderate
  else .low

/-- How many elements of one kind were paired or left over. -/
structure KindCounts where
  matched : Nat
  extra : Nat
  missing : Nat
deriving DecidableEq, Repr

/-- How many pairs and elements were classified in each way. -/
structure TypeCounts where
  exact : Nat
  similar : Nat
  missing : Nat
  extra : Nat
deriving DecidableEq, Repr

/-- The figures of a comparison. -/
structure Metrics (α : Type) where
  overall : α
  prediction : Prediction
  totalStudents : Nat
  totalReferences : Nat
  matched : Nat
  meanSimilarity : α
  medianSimilarity : α
  /-- The share of pairs with a similarity of at least nine tenths. -/
  shareAbove90 : α
  perKind : List (ElementKind × KindCounts)
  matchTypes : TypeCounts
deriving Repr

/-- The counts for one kind; a pair counts for the kind of its reference element. -/
def kindCounts (view : β → Element) (s : Summary α β) (kind : ElementKind) : KindCounts :=
  { matched := s.pairings.countP fun p => (view p.reference).kind == kind
    extra := s.unmatchedStudents.countP fun x => (view x).kind == kind
    missing := s.unmatchedReferences.countP fun x => (view x).kind == kind }

/-- The counts by classification, as it stands on the elements of the submission. -/
def typeCounts (outcomes : Outcomes α β) (s : Summary α β) : TypeCounts :=
  let count (t : MatchType) : Nat :=
    s.pairings.countP fun p => (outcomes p.student).matchType == some t
  { exact := count .exact
    similar := count .similar
    missing := s.unmatchedReferences.length
    extra := s.unmatchedStudents.length }

/-- The figures of a comparison, given the outcomes that it has left. -/
def collectMetrics [ScoreNumber α] (view : β → Element) (outcomes : Outcomes α β)
    (s : Summary α β) : Metrics α :=
  let similarities := s.pairings.map Pairing.similarity
  { overall := s.overall
    prediction := predict s.overall
    totalStudents := s.totalStudents
    totalReferences := s.totalReferences
    matched := s.pairings.length
    meanSimilarity := Number.mean similarities
    medianSimilarity := Number.median similarities
    shareAbove90 :=
      if similarities.isEmpty then zero
      else
        ofNat (similarities.countP fun x => decide (decimal 9 1 ≤ x)) / ofNat similarities.length
    perKind := ElementKind.all.map fun kind => (kind, kindCounts view s kind)
    matchTypes := typeCounts outcomes s }

end StructureGrader
