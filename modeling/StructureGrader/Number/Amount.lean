import StructureGrader.Number.Shortest

/-!
# Numbers as they are given

A setting is given as a whole number or as a double, and is shown again the way it was given.
-/

namespace StructureGrader

/-- A whole number or a double. -/
inductive Amount
  | whole (value : Int)
  | real (value : Float)
deriving Repr

namespace Amount

/-- The double nearest to a number. -/
def toFloat : Amount → Float
  | .whole n => Float.ofInt n
  | .real x => x

/-- The text of a number: a whole number shows no point. -/
def text : Amount → String
  | .whole n => toString n
  | .real x => Number.floatText x

/-- Whether a number lies between zero and one. -/
def isShare : Amount → Bool
  | .whole n => 0 ≤ n && n ≤ 1
  | .real x => 0.0 ≤ x && x ≤ 1.0

/-- Whether a number is not above zero. -/
def isNotPositive : Amount → Bool
  | .whole n => n ≤ 0
  | .real x => x ≤ 0.0

end Amount

end StructureGrader
