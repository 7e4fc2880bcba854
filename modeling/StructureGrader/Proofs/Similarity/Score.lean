import StructureGrader.Proofs.Similarity.Features
import StructureGrader.Proofs.Similarity.TextSimilarity
import StructureGrader.Similarity.Scorer
import Mathlib.Tactic.LinearCombination

/-!
# The scale of the score

The score blends the similarities of signatures, names and structures, and is kept from exceeding one.
Weights above zero that add up to one (`Weights.Convex`) make a mean of the three: a blend of numbers
between zero and one lies between zero and one, is zero only where all three are zero, and is one only
where all three are one (`Weights.Convex.blend_eq_zero`, `Weights.Convex.blend_eq_one`). So the limit
changes nothing (`Weights.Convex.score_eq_blend`), and a score is full where signatures and names have
the same small letters and the sources have the same features (`score_default_scaled`).
-/

namespace StructureGrader

open ScoreNumber

/-! ## Blending -/

namespace Weights

/-- The weighted sum of the three similarities. -/
def blend (w : Weights Rat) (x y z : Rat) : Rat :=
  x * w.forSignature + y * w.forName + z * w.forStructure

/-- All weights are above zero, and they add up to one. -/
structure Convex (w : Weights Rat) : Prop where
  signature_pos : 0 < w.forSignature
  name_pos : 0 < w.forName
  structure_pos : 0 < w.forStructure
  sum_eq_one : w.forSignature + w.forName + w.forStructure = 1

/-- The default weights are two fifths and twice three tenths. -/
theorem default_rat : (default : Weights Rat) = ⟨2 / 5, 3 / 10, 3 / 10⟩ := by
  rw [default]
  congr 1
  decide +kernel

/-- The default weights are convex. -/
theorem convex_default : (default : Weights Rat).Convex := by
  rw [default_rat]
  exact ⟨by decide +kernel, by decide +kernel, by decide +kernel, by decide +kernel⟩

variable {w : Weights Rat} {x y z : Rat}

namespace Convex

/-- A blend of numbers from 0 on is one, with convex weights. -/
theorem blend_nonneg (hw : w.Convex) (hx : 0 ≤ x) (hy : 0 ≤ y) (hz : 0 ≤ z) : 0 ≤ w.blend x y z :=
  add_nonneg (add_nonneg (mul_nonneg hx hw.signature_pos.le) (mul_nonneg hy hw.name_pos.le))
    (mul_nonneg hz hw.structure_pos.le)

/-- What is missing from three similarities is missing from their blend. -/
theorem blend_one_sub (hw : w.Convex) (x y z : Rat) :
    w.blend (1 - x) (1 - y) (1 - z) = 1 - w.blend x y z := by
  unfold blend
  linear_combination hw.sum_eq_one

/-- A blend of numbers up to 1 is one, with convex weights. -/
theorem blend_le_one (hw : w.Convex) (hx : x ≤ 1) (hy : y ≤ 1) (hz : z ≤ 1) :
    w.blend x y z ≤ 1 := by
  have hmissing := hw.blend_nonneg (sub_nonneg.2 hx) (sub_nonneg.2 hy) (sub_nonneg.2 hz)
  rw [hw.blend_one_sub] at hmissing
  exact sub_nonneg.1 hmissing

/-- A blend of numbers from 0 on is 0 where all of them are. -/
theorem blend_eq_zero (hw : w.Convex) (hx : 0 ≤ x) (hy : 0 ≤ y) (hz : 0 ≤ z) :
    w.blend x y z = 0 ↔ x = 0 ∧ y = 0 ∧ z = 0 := by
  have hsignature := mul_nonneg hx hw.signature_pos.le
  have hname := mul_nonneg hy hw.name_pos.le
  have hstructure := mul_nonneg hz hw.structure_pos.le
  rw [blend, add_eq_zero_iff_of_nonneg (add_nonneg hsignature hname) hstructure,
    add_eq_zero_iff_of_nonneg hsignature hname, mul_eq_zero_iff_right hw.signature_pos.ne',
    mul_eq_zero_iff_right hw.name_pos.ne', mul_eq_zero_iff_right hw.structure_pos.ne', and_assoc]

/-- A blend of numbers up to 1 is 1 where all of them are. -/
theorem blend_eq_one (hw : w.Convex) (hx : x ≤ 1) (hy : y ≤ 1) (hz : z ≤ 1) :
    w.blend x y z = 1 ↔ x = 1 ∧ y = 1 ∧ z = 1 := by
  have hmissing := hw.blend_eq_zero (sub_nonneg.2 hx) (sub_nonneg.2 hy) (sub_nonneg.2 hz)
  have hfull : ∀ t : Rat, 1 - t = 0 ↔ t = 1 := fun t => sub_eq_zero.trans eq_comm
  rw [hw.blend_one_sub] at hmissing
  simpa only [hfull] using hmissing

end Convex

end Weights

/-! ## Scores -/

/-- Two texts have the same small letters. -/
def SameLetters (a b : String) : Prop :=
  Text.lower a = Text.lower b

/-- Two texts have the same features. -/
def SameFeatures (c d : String) : Prop :=
  codeFeatures c = codeFeatures d

/-- The similarity of two texts lies between 0 and 1. -/
theorem textSimilarity_range (a b : String) :
    (0 : Rat) ≤ textSimilarity a b ∧ (textSimilarity a b : Rat) ≤ 1 := by
  rw [textSimilarity_eq_max]
  exact ⟨le_max_left _ _, max_le zero_le_one (unclampedSimilarity_le_one a b)⟩

/-- The similarity of two texts that may be missing lies between 0 and 1. -/
theorem normalizedSimilarity_range (a b : Option String) :
    (0 : Rat) ≤ normalizedSimilarity a b ∧ (normalizedSimilarity a b : Rat) ≤ 1 :=
  similarityOfMissing_scaled ⟨le_refl (0 : Rat), zero_le_one, le_refl (1 : Rat)⟩
    textSimilarity_range a b

/-- The structural similarity of two texts lies between 0 and 1. -/
theorem structuralSimilarity_range (a b : Option String) :
    (0 : Rat) ≤ structuralSimilarity a b ∧ (structuralSimilarity a b : Rat) ≤ 1 :=
  similarityOfMissing_scaled ⟨le_refl (0 : Rat), zero_le_one, le_refl (1 : Rat)⟩ (fun c d =>
    ⟨(featureSimilarity_codeFeatures c d).1, (featureSimilarity_codeFeatures c d).2.1⟩) a b

/-- Two texts have similarity 1 where they are the same in small letters, or both are missing. -/
theorem normalizedSimilarity_eq_one (a b : Option String) :
    (normalizedSimilarity a b : Rat) = 1 ↔ Option.Rel SameLetters a b :=
  similarityOfMissing_eq_one (α := Rat) zero_ne_one (fun _ _ => textSimilarity_eq_one) a b

/-- Two texts have structural similarity 1 where they have the same features. -/
theorem structuralSimilarity_eq_one (a b : Option String) :
    (structuralSimilarity a b : Rat) = 1 ↔ Option.Rel SameFeatures a b :=
  similarityOfMissing_eq_one (α := Rat) zero_ne_one (fun c d =>
    (featureSimilarity_codeFeatures c d).2.2.trans codeFeatures_eq_iff.symm) a b

namespace Weights

variable {w : Weights Rat}

/-- The limit of one changes nothing. -/
theorem Convex.score_eq_blend (hw : w.Convex) (s r : Element) :
    w.score s r = w.blend (normalizedSimilarity s.signature r.signature)
      (normalizedSimilarity s.name r.name) (structuralSimilarity s.source r.source) := by
  have hle := hw.blend_le_one (normalizedSimilarity_range s.signature r.signature).2
    (normalizedSimilarity_range s.name r.name).2 (structuralSimilarity_range s.source r.source).2
  have hlimit : ∀ x : Rat, x ≤ 1 → (if x < 1 then x else 1) = x := by
    intro x hx
    split_ifs with hlt
    · rfl
    · exact le_antisymm (not_lt.1 hlt) hx
  exact hlimit _ hle

/-- The score of two elements does not depend on their order. -/
theorem score_comm (w : Weights Rat) (s r : Element) : w.score s r = w.score r s := by
  have htext : ∀ a b, (normalizedSimilarity a b : Rat) = normalizedSimilarity b a :=
    similarityOfMissing_comm textSimilarity_comm
  have hstructure : ∀ a b, (structuralSimilarity a b : Rat) = structuralSimilarity b a :=
    similarityOfMissing_comm fun c d =>
      featureSimilarity_comm (codeFeatures_nodup c) (codeFeatures_nodup d)
  rw [score, score, htext, htext s.name, hstructure]

end Weights

/-- With exact arithmetic and the default weights, the score of two elements lies between zero and
one and is the same both ways. It is one where the signatures have the same small letters or are
both missing, the names have or are, and the sources have the same features or are both missing. It
is zero where all three similarities are. The limit of one changes nothing. -/
theorem score_default_scaled (s r : Element) :
    let score : Element → Element → Rat := Weights.default.score
    (0 ≤ score s r ∧ score s r ≤ 1) ∧
      score s r = score r s ∧
      (score s r = 1 ↔ Option.Rel SameLetters s.signature r.signature ∧
        Option.Rel SameLetters s.name r.name ∧ Option.Rel SameFeatures s.source r.source) ∧
      (score s r = 0 ↔ (normalizedSimilarity s.signature r.signature : Rat) = 0 ∧
        (normalizedSimilarity s.name r.name : Rat) = 0 ∧
        (structuralSimilarity s.source r.source : Rat) = 0) ∧
      score s r = normalizedSimilarity s.signature r.signature * (2 / 5) +
        normalizedSimilarity s.name r.name * (3 / 10) +
        structuralSimilarity s.source r.source * (3 / 10) := by
  intro score
  obtain ⟨hsignature, hsignature'⟩ := normalizedSimilarity_range s.signature r.signature
  obtain ⟨hname, hname'⟩ := normalizedSimilarity_range s.name r.name
  obtain ⟨hstructure, hstructure'⟩ := structuralSimilarity_range s.source r.source
  have hw : (Weights.default : Weights Rat).Convex := Weights.convex_default
  have hscore : score s r = _ := hw.score_eq_blend s r
  refine ⟨?_, Weights.score_comm _ s r, ?_, ?_, ?_⟩
  · rw [hscore]
    exact ⟨hw.blend_nonneg hsignature hname hstructure,
      hw.blend_le_one hsignature' hname' hstructure'⟩
  · rw [hscore, hw.blend_eq_one hsignature' hname' hstructure',
      normalizedSimilarity_eq_one, normalizedSimilarity_eq_one, structuralSimilarity_eq_one]
  · rw [hscore, hw.blend_eq_zero hsignature hname hstructure]
  · rw [hscore, Weights.blend, Weights.default_rat]

/-- Capital letters and names inside of a body leave no trace in a score. -/
example : (Weights.default : Weights Rat).score
    ⟨some "f", .method, some "int f()", some "return a;", 1, "", ""⟩
    ⟨some "F", .method, some "INT F()", some "return b;", 1, "", ""⟩ = 1 := by
  decide +kernel

end StructureGrader
