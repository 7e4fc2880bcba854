import StructureGrader.Element
import StructureGrader.Similarity.Features

/-!
# The score of a pair of elements
-/

namespace StructureGrader

open ScoreNumber

/-- How much signature, name and structure count. -/
structure Weights (α : Type) where
  forSignature : α
  forName : α
  forStructure : α

/-- The weights that are used unless others are given. -/
def Weights.default {α : Type} [ScoreNumber α] : Weights α :=
  ⟨decimal 4 1, decimal 3 1, decimal 3 1⟩

/-- The weighted similarity of two elements, never above one. -/
def Weights.score {α : Type} [ScoreNumber α] (w : Weights α) (student reference : Element) : α :=
  atMost one
    (normalizedSimilarity student.signature reference.signature * w.forSignature +
      normalizedSimilarity student.name reference.name * w.forName +
      structuralSimilarity student.source reference.source * w.forStructure)

end StructureGrader
