import StructureGrader.Number.Score

/-!
# Mean and median

The mean adds in pairs of halves, which keeps the rounding small: up to 128 numbers are added in
eight lanes, more are split in two. Fewer than eight are added from left to right.
-/

namespace StructureGrader.Number

open ScoreNumber

variable {α : Type} [ScoreNumber α]

/-- The sums of two lists place by place. -/
def addLanes : List α → List α → List α :=
  List.zipWith (· + ·)

/-- Adds full blocks of eight to eight lanes, then the lanes in pairs, then what is left over. -/
def sumInLanes : Nat → List α → List α → α
  | 0, _, _ => zero
  | fuel + 1, lanes, xs =>
    if 8 ≤ xs.length then sumInLanes fuel (addLanes lanes (xs.take 8)) (xs.drop 8)
    else
      match lanes with
      | [a, b, c, d, e, f, g, h] =>
        xs.foldl (· + ·) (((a + b) + (c + d)) + ((e + f) + (g + h)))
      | _ => zero

/-- The sum of a list by halves; `fuel` bounds how often it is split. -/
def pairwiseSum : Nat → List α → α
  | 0, xs => sum xs
  | fuel + 1, xs =>
    let n := xs.length
    if n < 8 then sum xs
    else if n ≤ 128 then sumInLanes n (xs.take 8) (xs.drop 8)
    else
      let half := n / 2 - n / 2 % 8
      pairwiseSum fuel (xs.take half) + pairwiseSum fuel (xs.drop half)

/-- The mean of a list; zero when it is empty. -/
def mean (xs : List α) : α :=
  if xs.isEmpty then zero else pairwiseSum xs.length xs / ofNat xs.length

/-- The middle of the sorted list, or the mean of the two in the middle; zero when it is empty. -/
def median (xs : List α) : α :=
  let sorted := xs.mergeSort fun x y => decide (x ≤ y)
  let middle := sorted.length / 2
  let at_ (i : Nat) : α := sorted.getD i zero
  if sorted.isEmpty then zero
  else if sorted.length % 2 == 1 then at_ middle
  else (at_ (middle - 1) + at_ middle) / ofNat 2

end StructureGrader.Number
