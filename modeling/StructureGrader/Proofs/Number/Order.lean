import StructureGrader.Number.Score
import Mathlib.Data.Prod.Lex
import Mathlib.Order.Compare

/-!
# The order of scores

Scores are compared with `<` and `≤` alone. `ScoreOrder` collects the laws that these comparisons
obey on every number that scores are made of: they are a total preorder on the numbers that are
comparable with themselves, and a number that is not, such as the double that is no number, is
neither below nor above any. The rational numbers obey the laws, and so do the doubles with all
their special values: `place?` puts each double in a linear order, and comparing two doubles is
comparing their places (`lt_iff_place`, `le_iff_place`).
-/

namespace StructureGrader

/-- The laws of comparison: a total preorder on the numbers that are comparable with themselves. -/
class ScoreOrder (α : Type) [ScoreNumber α] : Prop where
  le_trans : ∀ {x y z : α}, x ≤ y → y ≤ z → x ≤ z
  /-- Numbers that are compared with any other are comparable with themselves. -/
  le_self : ∀ {x y : α}, x ≤ y → x ≤ x ∧ y ≤ y
  le_total : ∀ {x y : α}, x ≤ x → y ≤ y → x ≤ y ∨ y ≤ x
  lt_iff : ∀ {x y : α}, x < y ↔ x ≤ y ∧ ¬ y ≤ x

namespace ScoreOrder

variable {α : Type} [ScoreNumber α] [ScoreOrder α] {x y z w : α}

/-- What is less is at most. -/
theorem le_of_lt (h : x < y) : x ≤ y :=
  (lt_iff.1 h).1

/-- Nothing is less than itself. -/
theorem lt_irrefl (x : α) : ¬ x < x := by
  intro h
  exact (lt_iff.1 h).2 (lt_iff.1 h).1

/-- What is at most something less than a third is less than the third. -/
theorem lt_of_le_of_lt (hxy : x ≤ y) (hyz : y < z) : x < z := by
  obtain ⟨hle, hnot⟩ := lt_iff.1 hyz
  exact lt_iff.2 ⟨le_trans hxy hle, fun hzx => hnot (le_trans hzx hxy)⟩

/-- Less is transitive. -/
theorem lt_trans (hxy : x < y) (hyz : y < z) : x < z :=
  lt_of_le_of_lt (le_of_lt hxy) hyz

/-- Between numbers that are comparable at all, one that is not above another is at most it. -/
theorem le_of_not_lt (hx : x ≤ x) (hy : y ≤ y) (h : ¬ x < y) : y ≤ x := by
  rcases le_total hx hy with hxy | hyx
  · by_contra hnot
    exact h (lt_iff.2 ⟨hxy, hnot⟩)
  · exact hyx

/-- Of two comparable numbers, one that is not at most the other is greater. -/
theorem lt_of_not_le (hx : x ≤ x) (hy : y ≤ y) (h : ¬ x ≤ y) : y < x :=
  lt_iff.2 ⟨(le_total hx hy).resolve_left h, h⟩

/-- A number above something that is not above `w` is below every number above `w`. -/
theorem lt_of_not_lt (hxy : x < y) (hwz : w < z) (h : ¬ w < y) : y < z := by
  have hy : y ≤ y := (le_self (le_of_lt hxy)).2
  have hw : w ≤ w := (le_self (le_of_lt hwz)).1
  exact lt_of_le_of_lt (le_of_not_lt hw hy h) hwz

end ScoreOrder

/-- The rational numbers are linearly ordered. -/
instance : ScoreOrder Rat where
  le_trans := Rat.le_trans
  le_self := fun _ => ⟨Rat.le_refl, Rat.le_refl⟩
  le_total := fun _ _ => Rat.le_total
  lt_iff := by
    intro x y
    constructor
    · intro h
      exact ⟨Rat.le_of_lt h, Rat.not_le.2 h⟩
    · rintro ⟨-, h⟩
      exact Rat.not_le.1 h

/-! ## Doubles -/

namespace Number

open Float.Model (UnpackedFloat)

/-- The place of a double in the order of all doubles but the one that is no number: the sign, with
infinity as a sign of its own, then the exponent and the mantissa, both backwards below zero. -/
def place? : UnpackedFloat → Option (ℤ ×ₗ ℤ ×ₗ ℤ)
  | .notANumber => none
  | .infinity .negative => some (toLex (-2, toLex (0, 0)))
  | .finite .negative m e _ => some (toLex (-1, toLex (-e, -(m : ℤ))))
  | .zero _ => some (toLex (0, toLex (0, 0)))
  | .finite .positive m e _ => some (toLex (1, toLex (e, (m : ℤ))))
  | .infinity .positive => some (toLex (2, toLex (0, 0)))

/-- Places are compared sign by sign, then by exponent, then by mantissa. -/
theorem compare_place (a b c a' b' c' : ℤ) :
    compare (toLex (a, toLex (b, c))) (toLex (a', toLex (b', c'))) =
      (compare a a').then ((compare b b').then (compare c c')) :=
  rfl

/-- Negation turns a comparison round. -/
theorem compare_neg (a b : ℤ) : compare (-a) (-b) = (compare a b).swap := by
  rw [Int.compare_swap, Int.compare_eq_ite_lt, Int.compare_eq_ite_lt]
  simp only [Int.neg_lt_neg_iff]

/-- Natural numbers compare as the integers they are. -/
theorem compare_natCast (m n : ℕ) : compare (m : ℤ) n = compare m n := by
  rw [Int.compare_eq_ite_lt, Nat.compare_eq_ite_lt]
  simp only [Int.ofNat_lt]

/-- Comparing two doubles is comparing their places; without a place there is no comparison. -/
theorem compare_eq_place (x y : UnpackedFloat) :
    x.compare y = (place? x).bind fun p => (place? y).map fun q => compare p q := by
  rcases x with (_ | _) | _ | s | ⟨_ | _, m, e, hm⟩ <;>
    rcases y with (_ | _) | _ | t | ⟨_ | _, n, f, hn⟩ <;>
    try rfl
  -- What is left are two doubles of the same sign, neither zero nor infinite.
  · show some _ = some (compare _ _)
    rw [compare_place, compare_neg e f, compare_neg (m : ℤ) n, compare_natCast,
      ← Ordering.swap_then]
    rfl
  · show some _ = some (compare _ _)
    rw [compare_place, compare_natCast]
    rfl

/-- A double is less than another where both have places and the first lies before the second. -/
theorem lt_iff_place (x y : Float) :
    x < y ↔ ∃ p ∈ place? x.toModel.unpack, ∃ q ∈ place? y.toModel.unpack, p < q := by
  show decide (UnpackedFloat.lt _ _ = true) = true ↔ _
  rw [decide_eq_true_iff, UnpackedFloat.lt, compare_eq_place]
  rcases place? x.toModel.unpack with _ | p <;> rcases place? y.toModel.unpack with _ | q <;>
    simp [compare_lt_iff_lt]

/-- A double is at most another where both have places and the first lies not behind the second. -/
theorem le_iff_place (x y : Float) :
    x ≤ y ↔ ∃ p ∈ place? x.toModel.unpack, ∃ q ∈ place? y.toModel.unpack, p ≤ q := by
  show decide (UnpackedFloat.le _ _ = true) = true ↔ _
  rw [decide_eq_true_iff, UnpackedFloat.le, compare_eq_place]
  rcases place? x.toModel.unpack with _ | p <;> rcases place? y.toModel.unpack with _ | q <;>
    simp [Ordering.isLE_iff_ne_gt, compare_gt_iff_gt]

end Number

/-- The doubles, with zeros of both signs and all special values. -/
instance : ScoreOrder Float where
  le_trans := by
    intro x y z
    simp only [Number.le_iff_place]
    rintro ⟨p, hp, q, hq, hpq⟩ ⟨q', hq', r, hr, hqr⟩
    obtain rfl := Option.mem_unique hq hq'
    exact ⟨p, hp, r, hr, hpq.trans hqr⟩
  le_self := by
    intro x y
    simp only [Number.le_iff_place]
    rintro ⟨p, hp, q, hq, -⟩
    exact ⟨⟨p, hp, p, hp, le_rfl⟩, ⟨q, hq, q, hq, le_rfl⟩⟩
  le_total := by
    intro x y
    simp only [Number.le_iff_place]
    rintro ⟨p, hp, -⟩ ⟨q, hq, -⟩
    rcases le_total p q with hpq | hqp
    · exact Or.inl ⟨p, hp, q, hq, hpq⟩
    · exact Or.inr ⟨q, hq, p, hp, hqp⟩
  lt_iff := by
    intro x y
    rw [Number.lt_iff_place, Number.le_iff_place, Number.le_iff_place]
    constructor
    · rintro ⟨p, hp, q, hq, hpq⟩
      refine ⟨⟨p, hp, q, hq, hpq.le⟩, ?_⟩
      rintro ⟨q', hq', p', hp', hqp⟩
      obtain rfl := Option.mem_unique hp hp'
      obtain rfl := Option.mem_unique hq hq'
      exact absurd hpq hqp.not_gt
    · rintro ⟨⟨p, hp, q, hq, -⟩, hnot⟩
      exact ⟨p, hp, q, hq, not_le.1 fun hqp => hnot ⟨q, hq, p, hp, hqp⟩⟩

end StructureGrader
