import StructureGrader.Number.Binary

/-!
# The numbers that scores are made of

Scores are computed with four operations, two comparisons and small constants. `ScoreNumber`
collects them, so that the same definitions run on doubles and can be read over the rational
numbers, where the laws of arithmetic hold exactly.
-/

namespace StructureGrader

/-- Numbers that scores can be computed with. -/
class ScoreNumber (α : Type) extends Add α, Sub α, Mul α, Div α, LT α, LE α where
  /-- The number of things counted. -/
  ofNat : Nat → α
  /-- `decimal digits places` is `digits · 10 ^ -places`. -/
  decimal : Nat → Nat → α
  /-- The greatest integer that is not above a number; zero where there is none. -/
  floor : α → Int
  /-- Whether a number has a greatest integer that is not above it. -/
  isFinite : α → Bool
  decideLT : DecidableLT α
  decideLE : DecidableLE α

attribute [reducible, instance] ScoreNumber.decideLT ScoreNumber.decideLE

namespace ScoreNumber

variable {α : Type} [ScoreNumber α]

/-- No similarity. -/
def zero : α := ofNat 0

/-- Full similarity. -/
def one : α := ofNat 1

/-- A whole number. -/
def ofInt : Int → α
  | .ofNat n => ofNat n
  | .negSucc n => zero - ofNat (n + 1)

/-- The sum of a list, added from left to right. -/
def sum (xs : List α) : α :=
  xs.foldl (· + ·) zero

/-- The first number, unless the second is smaller. -/
def atMost (bound x : α) : α :=
  if x < bound then x else bound

/-- The first number, unless the second is greater. -/
def atLeast (bound x : α) : α :=
  if bound < x then x else bound

end ScoreNumber

/-- Doubles, with the rounding of every single operation. -/
instance : ScoreNumber Float where
  ofNat := Float.ofNat
  decimal digits places := Float.ofScientific digits true places
  floor x := (Number.Binary.ofFloat x).floor?.getD 0
  isFinite x := (Number.Binary.ofFloat x).floor?.isSome
  decideLT := inferInstance
  decideLE := inferInstance

/-- The rational numbers. -/
instance : ScoreNumber Rat where
  ofNat n := (n : Rat)
  decimal digits places := (digits : Rat) / (10 : Rat) ^ places
  floor x := x.floor
  isFinite _ := true
  decideLT := inferInstance
  decideLE := inferInstance

end StructureGrader
