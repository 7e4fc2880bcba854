import StructureGrader.Proofs.Number.Checked
import StructureGrader.Proofs.Similarity.EditDistance
import Mathlib.Algebra.Order.Field.Basic
import Mathlib.Algebra.Order.Ring.Rat

/-!
# The scale of the similarity of two texts

The similarity of two texts is one less the share of characters to edit, where the edits are counted
in small letters and the characters are not. Small letters can be more than the letters they stand
for, so the share can be above one, and the similarity is kept from falling below zero. Over the
rational numbers it is `unclampedSimilarity` where that is not negative (`textSimilarity_eq_max`),
and it is negative only for a text that grows in small letters (`lengthens_of_unclamped_neg`).

The similarity is one where the texts have the same small letters (`textSimilarity_eq_one`), and zero
where no fewer edits are needed than there are characters (`textSimilarity_eq_zero`).
`normalizedSimilarity_scaled` says the same of texts that may be missing.
-/

namespace StructureGrader

open ScoreNumber

/-- One less the share of characters to edit, regardless of case. -/
def unclampedSimilarity (a b : String) : Rat :=
  1 - (editDistance (Text.lower a) (Text.lower b) : Rat) / (max a.length b.length : Nat)

/-- A text has more characters in small letters. -/
def Lengthens (a : String) : Prop :=
  a.length < (Text.lower a).length

variable {a b : String}

/-- A text has similarity 1 to itself. -/
theorem unclampedSimilarity_self (a : String) : unclampedSimilarity a a = 1 := by
  have hzero : editDistance (Text.lower a) (Text.lower a) = 0 := by
    rw [editDistance_eq, leastMoves_self]
  rw [unclampedSimilarity, hzero, Nat.cast_zero, zero_div, sub_zero]

/-- The similarity, before negative values are cut off, is symmetric. -/
theorem unclampedSimilarity_comm (a b : String) :
    unclampedSimilarity a b = unclampedSimilarity b a := by
  rw [unclampedSimilarity, unclampedSimilarity, editDistance_comm, max_comm]

/-- On all numbers the similarity of two texts is the same both ways. -/
theorem textSimilarity_comm {α : Type} [ScoreNumber α] (a b : String) :
    (textSimilarity a b : α) = textSimilarity b a := by
  have hequal : (a == b) = (b == a) := Bool.eq_iff_iff.2 (by rw [beq_iff_eq, beq_iff_eq, eq_comm])
  rw [textSimilarity, textSimilarity, hequal, max_comm, editDistance_comm]

/-- The similarity, before negative values are cut off, is at most 1. -/
theorem unclampedSimilarity_le_one (a b : String) : unclampedSimilarity a b ≤ 1 := by
  have hshare : (0 : Rat) ≤
      (editDistance (Text.lower a) (Text.lower b) : Rat) / (max a.length b.length : Nat) :=
    div_nonneg (Nat.cast_nonneg _) (Nat.cast_nonneg _)
  exact sub_le_self 1 hshare

/-- Where the texts differ there are characters to divide by. -/
theorem size_pos (h : a ≠ b) : (0 : Rat) < (max a.length b.length : Nat) :=
  Nat.cast_pos.2 (Nat.pos_of_ne_zero (Checked.max_length_ne_zero h))

/-- The similarity is one less the share of characters to edit, unless that is negative. -/
theorem textSimilarity_eq_max (a b : String) :
    (textSimilarity a b : Rat) = max 0 (unclampedSimilarity a b) := by
  by_cases h : a = b
  · rw [textSimilarity, if_pos (beq_iff_eq.2 h), h, unclampedSimilarity_self]
    rfl
  · rw [textSimilarity, if_neg (by simpa using h)]
    show (if (0 : Rat) < unclampedSimilarity a b then unclampedSimilarity a b else 0) = _
    split_ifs with hpos
    · exact (max_eq_right hpos.le).symm
    · exact (max_eq_left (not_lt.1 hpos)).symm

/-- The similarity, before negative values are cut off, is 1 where the texts are the same in small
letters. -/
theorem unclampedSimilarity_eq_one :
    unclampedSimilarity a b = 1 ↔ Text.lower a = Text.lower b := by
  by_cases h : a = b
  · rw [h, unclampedSimilarity_self]
    exact iff_of_true rfl rfl
  · rw [unclampedSimilarity, sub_eq_self, div_eq_zero_iff, or_iff_left (size_pos h).ne',
      Nat.cast_eq_zero, editDistance_eq, leastMoves_eq_zero, String.toList_inj]

/-- The similarity of two texts is 1 where they are the same in small letters. -/
theorem textSimilarity_eq_one :
    (textSimilarity a b : Rat) = 1 ↔ Text.lower a = Text.lower b := by
  rw [textSimilarity_eq_max, ← unclampedSimilarity_eq_one]
  constructor
  · intro hone
    rcases max_choice 0 (unclampedSimilarity a b) with hmax | hmax
    · exact absurd (hmax.symm.trans hone) zero_ne_one
    · exact hmax.symm.trans hone
  · intro hraw
    rw [hraw]
    exact max_eq_right zero_le_one

/-- The similarity of two different texts is 0 where the distance in small letters reaches the
length of the longer one. -/
theorem textSimilarity_eq_zero : (textSimilarity a b : Rat) = 0 ↔
    a ≠ b ∧ max a.length b.length ≤ editDistance (Text.lower a) (Text.lower b) := by
  rw [textSimilarity_eq_max, max_eq_left_iff]
  by_cases h : a = b
  · rw [h, unclampedSimilarity_self]
    exact iff_of_false (not_le.2 zero_lt_one) fun hne => hne.1 rfl
  · rw [unclampedSimilarity, sub_nonpos, one_le_div (size_pos h), Nat.cast_le]
    exact (and_iff_right h).symm

/-- The share of characters to edit is above one only where a text grows in small letters, for there
are never more edits than small letters. -/
theorem lengthens_of_unclamped_neg (h : unclampedSimilarity a b < 0) :
    Lengthens a ∨ Lengthens b := by
  have hne : a ≠ b := by
    rintro rfl
    rw [unclampedSimilarity_self] at h
    exact absurd h (not_lt.2 zero_le_one)
  have hedits : max a.length b.length < editDistance (Text.lower a) (Text.lower b) := by
    rw [unclampedSimilarity, sub_neg, one_lt_div (size_pos hne)] at h
    exact Nat.cast_lt.1 h
  have hmost := leastMoves_le_max (Text.lower a).toList (Text.lower b).toList
  rw [← editDistance_eq, String.length_toList, String.length_toList] at hmost
  rw [Lengthens, Lengthens]
  omega

/-- The similarity of two texts that may be missing lies between zero and one and is the same both
ways. It is one where both are missing or both have the same small letters, and zero where one of
them is missing, or where they differ and no fewer edits are needed than there are characters. That
it is kept from falling below zero makes a difference only for a text that grows in small letters.
-/
theorem normalizedSimilarity_scaled (a b : Option String) :
    (0 ≤ (normalizedSimilarity a b : Rat) ∧ (normalizedSimilarity a b : Rat) ≤ 1) ∧
      (normalizedSimilarity a b : Rat) = normalizedSimilarity b a ∧
      ((normalizedSimilarity a b : Rat) = 1 ↔ (a = none ∧ b = none) ∨
        ∃ s t, a = some s ∧ b = some t ∧ Text.lower s = Text.lower t) ∧
      ((normalizedSimilarity a b : Rat) = 0 ↔ a.isSome ≠ b.isSome ∨
        ∃ s t, a = some s ∧ b = some t ∧ s ≠ t ∧
          max s.length t.length ≤ editDistance (Text.lower s) (Text.lower t)) ∧
      ∀ s t : String,
        (normalizedSimilarity (some s) (some t) : Rat) = max 0 (unclampedSimilarity s t) ∧
          (max 0 (unclampedSimilarity s t) ≠ unclampedSimilarity s t →
            Lengthens s ∨ Lengthens t) := by
  have hclamp : ∀ s t : String,
      (normalizedSimilarity (some s) (some t) : Rat) = max 0 (unclampedSimilarity s t) ∧
        (max 0 (unclampedSimilarity s t) ≠ unclampedSimilarity s t →
          Lengthens s ∨ Lengthens t) := fun s t =>
    ⟨textSimilarity_eq_max s t, fun hne =>
      lengthens_of_unclamped_neg (lt_of_not_ge fun hle => hne (max_eq_right hle))⟩
  have hboth : (normalizedSimilarity none none : Rat) = 1 := rfl
  rcases a with _ | s <;> rcases b with _ | t
  · rw [hboth]
    exact ⟨⟨zero_le_one, le_rfl⟩, rfl, by simp, by simp, hclamp⟩
  · have hleft : (normalizedSimilarity none (some t) : Rat) = 0 := rfl
    have hright : (normalizedSimilarity (some t) none : Rat) = 0 := rfl
    rw [hleft, hright]
    exact ⟨⟨le_rfl, zero_le_one⟩, rfl, by simp, by simp, hclamp⟩
  · have hleft : (normalizedSimilarity none (some s) : Rat) = 0 := rfl
    have hright : (normalizedSimilarity (some s) none : Rat) = 0 := rfl
    rw [hleft, hright]
    exact ⟨⟨le_rfl, zero_le_one⟩, rfl, by simp, by simp, hclamp⟩
  · have hcomm : (textSimilarity s t : Rat) = textSimilarity t s := by
      rw [textSimilarity_eq_max, textSimilarity_eq_max, unclampedSimilarity_comm]
    have hle : (textSimilarity s t : Rat) ≤ 1 := by
      rw [textSimilarity_eq_max]
      exact max_le zero_le_one (unclampedSimilarity_le_one s t)
    have hnonneg : (0 : Rat) ≤ textSimilarity s t := by
      rw [textSimilarity_eq_max]
      exact le_max_left _ _
    refine ⟨⟨hnonneg, hle⟩, hcomm, ?_, ?_, hclamp⟩
    · exact textSimilarity_eq_one.trans (by simp)
    · exact textSimilarity_eq_zero.trans (by simp)

/-- The capital I with a dot is one character and two small letters, both of which are deleted. -/
example : unclampedSimilarity "\u0130" "" = -1 := by
  decide +kernel

end StructureGrader
