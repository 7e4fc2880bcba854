import StructureGrader.Feedback
import StructureGrader.Proofs.Comparison.Outcomes
import Mathlib.Data.Rat.Floor
import Mathlib.Tactic.Linarith
import Mathlib.Tactic.NormNum

/-!
# Suggested scores

With exact arithmetic the percentage of a similarity is the greatest whole number that is not above
`100 v + 1/2` (`percent_eq_floor`). It grows with the similarity and goes from 0 to 100, and at the
threshold of exact matches it reaches 95 from below (`percent_le_of_lt`, `le_percent_of_le`). There the
bonus for exact matches begins, which lifts all of them to 100 (`suggestedScore_paired`), so the score of
a paired element grows with its similarity across the threshold too (`suggestedScore_paired_mono`). With
a similarity given from outside no type of match turns the order of scores around (`scoreFor_mono`).
`suggestedScore_graded` puts this together for the elements that a comparison has listed.
-/

namespace StructureGrader

open ScoreNumber

variable {v v' : Rat}

/-! ## Percentages -/

/-- The percent of a value is the floor of a hundred times it and a half. -/
theorem percent_eq_floor (v : Rat) : percent v = ⌊100 * v + 1 / 2⌋ := by
  have hvalue : v * ofNat 100 + decimal 5 1 = 100 * v + 1 / 2 := by
    have hhundred : (ofNat 100 : Rat) = 100 := by norm_num [ScoreNumber.ofNat]
    have hhalf : (decimal 5 1 : Rat) = 1 / 2 := by norm_num [ScoreNumber.decimal]
    rw [hhundred, hhalf, mul_comm]
  rw [percent, hvalue]
  rfl

/-- The percent grows with the value. -/
theorem percent_mono (h : v ≤ v') : percent v ≤ percent v' := by
  rw [percent_eq_floor, percent_eq_floor]
  exact Int.floor_le_floor (by linarith)

/-- The percentage of a similarity between zero and one is one of a hundred, or zero. -/
theorem percent_mem (hzero : 0 ≤ v) (hone : v ≤ 1) : 0 ≤ percent v ∧ percent v ≤ 100 := by
  rw [percent_eq_floor]
  constructor
  · exact Int.floor_nonneg.2 (by linarith)
  · have hbelow : ⌊100 * v + 1 / 2⌋ < (101 : ℤ) := Int.floor_lt.2 (by push_cast; linarith)
    omega

/-- The threshold from which a pair counts as exact is 0.95. -/
theorem exactThreshold_eq : (Outcome.exactThreshold : Rat) = 95 / 100 := by
  norm_num [Outcome.exactThreshold, ScoreNumber.decimal]

/-- Below the threshold of exact matches the percentage does not get above 95. -/
theorem percent_le_of_lt (h : v < Outcome.exactThreshold) : percent v ≤ 95 := by
  rw [exactThreshold_eq] at h
  have hbelow : ⌊100 * v + 1 / 2⌋ < (96 : ℤ) := Int.floor_lt.2 (by push_cast; linarith)
  rw [percent_eq_floor]
  omega

/-- A value from the exact threshold on is at least 95 percent. -/
theorem le_percent_of_le (h : Outcome.exactThreshold ≤ v) : 95 ≤ percent v := by
  rw [exactThreshold_eq] at h
  rw [percent_eq_floor]
  exact Int.le_floor.2 (by push_cast; linarith)

/-! ## Scores by the type of the match -/

section Base

variable (t : Option MatchType) {base base' : Int}

/-- No type of match turns the order of percentages around. -/
theorem scoreFor_mono (h : base ≤ base') : scoreFor t base ≤ scoreFor t base' := by
  rcases t with _ | _ | _ | _ | _ <;> simp only [scoreFor] <;> omega

/-- A score lies between 0 and 100 where its base does. -/
theorem scoreFor_mem (hzero : 0 ≤ base) (hfull : base ≤ 100) :
    0 ≤ scoreFor t base ∧ scoreFor t base ≤ 100 := by
  rcases t with _ | _ | _ | _ | _ <;> simp only [scoreFor] <;> omega

end Base

/-- The score that goes with an outcome: full for an exact match, the percentage for a similar one,
and none for what was left over. Every outcome of a comparison has a type. -/
def Outcome.GradedAs (o : Outcome Rat) (score : Int) : Prop :=
  match o.matchType with
  | some .exact => score = 100
  | some .similar => score = ⌊100 * o.similarity + 1 / 2⌋ ∧ score ≤ 95
  | some .extra | some .missing => score = 0
  | none => False

/-- The bonus of an exact match makes up for all that it is short of 100. -/
theorem suggestedScore_paired (v : Rat) :
    suggestedScore (.paired v) = if Outcome.exactThreshold ≤ v then 100 else percent v := by
  rw [suggestedScore, Outcome.paired, Option.getD_none]
  dsimp only
  split_ifs with hexact
  · have hbase := le_percent_of_le hexact
    rw [scoreFor]
    omega
  · rfl

/-- The score of a paired element grows with its similarity, also from a similar match to an exact
one. -/
theorem suggestedScore_paired_mono (h : v ≤ v') :
    suggestedScore (.paired v) ≤ suggestedScore (.paired v') := by
  rw [suggestedScore_paired, suggestedScore_paired]
  -- Only from a similar match to an exact one do the scores come from different branches: there the
  -- bonus adds to what has stayed below.
  split_ifs with hexact hexact' hexact'
  · exact le_refl 100
  · exact absurd (hexact.trans h) hexact'
  · have hbelow := percent_le_of_lt (not_le.1 hexact)
    omega
  · exact percent_mono h

/-- The score suggested for a pair lies between 0 and 100 where its similarity lies between 0 and 1.
-/
theorem suggestedScore_paired_mem (hzero : 0 ≤ v) (hone : v ≤ 1) :
    0 ≤ suggestedScore (.paired v) ∧ suggestedScore (.paired v) ≤ 100 := by
  rw [suggestedScore, Option.getD_none]
  exact scoreFor_mem _ (percent_mem hzero hone).1 (percent_mem hzero hone).2

/-- A pair is graded in the class its similarity puts it in. -/
theorem gradedAs_paired (v : Rat) :
    (Outcome.paired v).GradedAs (suggestedScore (.paired v)) := by
  rw [suggestedScore_paired]
  by_cases hexact : Outcome.exactThreshold ≤ v
  · rw [if_pos hexact, Outcome.paired, if_pos hexact]
    rfl
  · rw [if_neg hexact, Outcome.paired, if_neg hexact]
    exact ⟨percent_eq_floor v, percent_le_of_lt (not_le.1 hexact)⟩

/-- What is left over has similarity zero, which no type of match lifts. -/
theorem gradedAs_unpaired {t : MatchType} (h : t = .extra ∨ t = .missing) :
    (Outcome.unpaired t : Outcome Rat).GradedAs (suggestedScore (.unpaired t : Outcome Rat)) := by
  have hbase : percent (zero : Rat) = 0 := by decide +kernel
  rw [suggestedScore, Option.getD_none, Outcome.unpaired, hbase]
  rcases h with rfl | rfl <;> rfl

/-! ## Scores after a comparison -/

namespace Session

variable {s after : Session Rat} {threshold : Rat} {w : Watch} {students references : List Nat}
  {summary : Summary Rat Nat}

/-- Each listed element was left over or stands in a pair, and has the outcome of that. -/
theorem gradedAs_of_compare (h : s.compare threshold w students references = (.ok summary, after))
    {x : Nat} (hx : x ∈ students ++ references) :
    (after.outcomes x).GradedAs (suggestedScore (after.outcomes x)) := by
  obtain ⟨⟨hmissing, hextra, hpaired, -⟩, -⟩ := written_of_compare h
  obtain ⟨-, hsummary, -⟩ := compare_eq_ok.1 h
  have hlisted := (s.matcher threshold).mem_summarize_result hx
  rw [hsummary] at hlisted
  -- The references are marked last, so what is left over on both sides counts as missing.
  by_cases hreference : x ∈ summary.result.references
  · rw [hmissing x hreference]
    exact gradedAs_unpaired (.inr rfl)
  by_cases hstudent : x ∈ summary.result.students
  · rw [hextra x hreference hstudent]
    exact gradedAs_unpaired (.inl rfl)
  obtain ⟨p, -, hp⟩ := hpaired x hreference hstudent
    ((hlisted.resolve_left hreference).resolve_left hstudent)
  rw [hp]
  exact gradedAs_paired p.similarity

/-- After a finished comparison the suggested score of each listed element goes with its outcome,
whatever stood on the elements before. A mark set by hand with a higher similarity never gets a
lower score, and neither does a higher similarity given from outside, whatever the type of the match
is; both kinds of score go from 0 to 100. -/
theorem suggestedScore_graded :
    (∀ (s after : Session Rat) (threshold : Rat) (w : Watch) (students references : List Nat)
      (summary : Summary Rat Nat),
      s.compare threshold w students references = (.ok summary, after) →
        ∀ x ∈ students ++ references,
          (after.outcomes x).GradedAs (suggestedScore (after.outcomes x))) ∧
    (∀ (s : Session Rat) (x : Nat) (v v' : Rat), 0 ≤ v → v ≤ v' → v' ≤ 1 →
      let score (v : Rat) := suggestedScore ((s.step (.markMatched x v)).2.outcomes x)
      0 ≤ score v ∧ score v ≤ score v' ∧ score v' ≤ 100) ∧
    ∀ (o : Outcome Rat) (v v' : Rat), 0 ≤ v → v ≤ v' → v' ≤ 1 →
      let score (v : Rat) := suggestedScore o (some v)
      0 ≤ score v ∧ score v ≤ score v' ∧ score v' ≤ 100 := by
  refine ⟨?_, ?_, ?_⟩
  · intro s after threshold w students references summary h x hx
    exact gradedAs_of_compare h hx
  · intro s x v v' hzero hle hone score
    have hmarked : ∀ v, score v = suggestedScore (.paired v) := by
      intro v
      show suggestedScore ((s.outcomes.set x (.paired v)) x) = _
      rw [Outcomes.set_apply, if_pos rfl]
    rw [hmarked, hmarked]
    exact ⟨(suggestedScore_paired_mem hzero (hle.trans hone)).1, suggestedScore_paired_mono hle,
      (suggestedScore_paired_mem (hzero.trans hle) hone).2⟩
  · intro o v v' hzero hle hone score
    exact ⟨(scoreFor_mem _ (percent_mem hzero (hle.trans hone)).1
        (percent_mem hzero (hle.trans hone)).2).1,
      scoreFor_mono _ (percent_mono hle),
      (scoreFor_mem _ (percent_mem (hzero.trans hle) hone).1
        (percent_mem (hzero.trans hle) hone).2).2⟩

/-- A comparison leaves an exact match, a similar one and a missing field. The similarity 189/200 is
just below the exact matches and counts 95 percent, the threshold itself counts 100. -/
theorem suggestedScore_graded_samplePool :
    let s : Session Rat := fresh Matcher.samplePool.elements
    let after := (s.compare (7 / 10) {} [0, 2] [1, 3, 4]).2
    let score (v : Rat) := suggestedScore ((s.step (.markMatched 0 v)).2.outcomes 0)
    [0, 2, 1, 3, 4].map (fun x => ((after.outcomes x).matchType, suggestedScore (after.outcomes x))) =
        [(some .exact, 100), (some .similar, 85), (some .exact, 100), (some .similar, 85),
          (some .missing, 0)] ∧
      (∀ x ∈ [0, 2] ++ [1, 3, 4], (after.outcomes x).GradedAs (suggestedScore (after.outcomes x))) ∧
      (score (189 / 200) = 95 ∧ score (19 / 20) = 100 ∧ score (189 / 200) ≤ score (19 / 20)) ∧
      suggestedScore (after.outcomes 4) (some (1 / 10)) ≤
        suggestedScore (after.outcomes 4) (some (9 / 10)) := by
  intro s after score
  obtain ⟨hgraded, hmarked, hgiven⟩ := suggestedScore_graded
  have hcompare : s.compare (7 / 10) {} [0, 2] [1, 3, 4] =
      (.ok ((s.matcher (7 / 10)).summarize [0, 2] [1, 3, 4]), after) := rfl
  obtain ⟨-, hle, -⟩ := hmarked s 0 (189 / 200) (19 / 20) (by norm_num) (by norm_num) (by norm_num)
  obtain ⟨-, hle', -⟩ :=
    hgiven (after.outcomes 4) (1 / 10) (9 / 10) (by norm_num) (by norm_num) (by norm_num)
  exact ⟨by decide +kernel, hgraded _ _ _ _ _ _ _ hcompare,
    ⟨by decide +kernel, by decide +kernel, hle⟩, hle'⟩

end Session

end StructureGrader
