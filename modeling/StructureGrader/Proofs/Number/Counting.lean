import StructureGrader.Comparison
import StructureGrader.Proofs.Number.WholeDouble
import Mathlib.Algebra.Field.Rat
import Mathlib.Data.ENat.Basic

/-!
# Counting with scores

A mean is taken by adding up similarities one by one and dividing by how many there are. Where all of
them are full this counts, and the mean is full only if counting is exact: `ScoreCounting` says up to
where it is, for the rational numbers and for doubles. Then the overall similarity of full
similarities that cover both sides is full (`overallSimilarity_ones`).
-/

namespace StructureGrader

open ScoreNumber

/-- Numbers with which things can be counted one by one, up to a limit. -/
class ScoreCounting (α : Type) [ScoreNumber α] where
  /-- Up to here counting is exact. -/
  limit : ℕ∞
  ofNat_add_one : ∀ n : ℕ, ((n + 1 : ℕ) : ℕ∞) ≤ limit → (ofNat n + one : α) = ofNat (n + 1)
  ofNat_div_self : ∀ n : ℕ, 0 < n → (n : ℕ∞) ≤ limit → (ofNat n / ofNat n : α) = one
  one_mul_one : (one * one : α) = one

/-- The rational numbers count without a limit. -/
instance : ScoreCounting Rat where
  limit := ⊤
  ofNat_add_one n _ := (Nat.cast_succ n).symm
  ofNat_div_self n hn _ := div_self (Nat.cast_ne_zero.2 hn.ne')
  one_mul_one := by decide +kernel

/-- Doubles count up to `2 ^ 53`. Not much later one more is lost in the rounding; a list of that
length has more elements than a memory has room for. -/
instance : ScoreCounting Float where
  limit := (2 ^ 53 : ℕ)
  ofNat_add_one n h := by
    have hle : n + 1 ≤ 2 ^ 53 := by exact_mod_cast h
    rcases Nat.eq_zero_or_pos n with rfl | hn
    · decide +kernel
    rcases Nat.lt_or_eq_of_le hle with hlt | heq
    · exact Number.ofNat_add_one hn hlt
    -- The greatest of these numbers has one bit more than a mantissa, which is a zero.
    · obtain rfl : n = 2 ^ 53 - 1 := by omega
      decide +kernel
  ofNat_div_self n hn h := by
    have hle : n ≤ 2 ^ 53 := by exact_mod_cast h
    rcases Nat.lt_or_eq_of_le hle with hlt | rfl
    · exact Number.ofNat_div_self hn hlt
    · decide +kernel
  one_mul_one := by decide +kernel

/-- Doubles count up to two to the 53. -/
theorem ScoreCounting.le_limit_float {n : ℕ} (h : n ≤ 2 ^ 53) : (n : ℕ∞) ≤ limit Float :=
  Nat.cast_le.2 h

section Ones

variable {α : Type} [ScoreNumber α] [ScoreCounting α] {n : ℕ}

/-- Adding up full similarities counts them on from where the sum stands. -/
theorem foldl_add_ones (k : ℕ) (h : ((k + n : ℕ) : ℕ∞) ≤ ScoreCounting.limit α) :
    (List.replicate n (one : α)).foldl (· + ·) (ofNat k) = ofNat (k + n) := by
  induction n generalizing k with
  | zero => rfl
  | succ n ih =>
    have hnext : ((k + 1 : ℕ) : ℕ∞) ≤ ScoreCounting.limit α :=
      le_trans (by exact_mod_cast (by omega : k + 1 ≤ k + (n + 1))) h
    rw [List.replicate_succ, List.foldl_cons, ScoreCounting.ofNat_add_one k hnext,
      ih (k + 1) (by rwa [show k + 1 + n = k + (n + 1) by omega])]
    congr 1
    omega

/-- As many ones as can be counted add up to their number. -/
theorem sum_ones (h : (n : ℕ∞) ≤ ScoreCounting.limit α) :
    sum (List.replicate n (one : α)) = ofNat n := by
  have hsum := foldl_add_ones (n := n) 0 (by rwa [Nat.zero_add])
  rwa [Nat.zero_add] at hsum

/-- Full similarities that cover both sides are fully similar overall. -/
theorem overallSimilarity_ones (hn : 0 < n) (h : (n : ℕ∞) ≤ ScoreCounting.limit α) :
    overallSimilarity (List.replicate n (one : α)) n n = one := by
  have hsome : ((List.replicate n (one : α)).isEmpty || (n : ℤ) == 0) = false := by
    have hne : n ≠ 0 := hn.ne'
    simp [hne]
  have hmax : (ofInt (max (n : ℤ) n) : α) = ofNat n := by
    rw [max_self]
    rfl
  rw [overallSimilarity, hsome, if_neg Bool.false_ne_true, sum_ones h, List.length_replicate, hmax]
  show (ofNat n / ofNat n) * (ofNat n / ofNat n) = (one : α)
  rw [ScoreCounting.ofNat_div_self n hn h, ScoreCounting.one_mul_one]

end Ones

end StructureGrader
