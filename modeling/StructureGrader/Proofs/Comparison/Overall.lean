import StructureGrader.Proofs.Matching.Conservation
import StructureGrader.Proofs.Number.Checked
import StructureGrader.Proofs.Similarity.Score
import Mathlib.Algebra.Order.BigOperators.Group.List
import Mathlib.Algebra.Order.Field.Basic
import Mathlib.Algebra.Order.Ring.Rat

/-!
# The scale of the overall similarity

Over the rational numbers a pair has a similarity above zero and not above one
(`Matcher.similarity_pos`, `Matcher.similarity_le_one`), and there are no more pairs than elements
on either side. So the sum of the similarities over the size of the larger side, which the overall
similarity comes to (`overallSimilarity_eq_div`), lies between zero and one. It is zero only without
pairs, and one only where the pairs are full and cover both sides (`compare_scaled`).

No division by zero is made on the way. On checked numbers, which show one, a comparison makes the
same choices (`Computes.bestChoice`), goes through the same passes (`Computes.passWith`) and comes to
the same summary (`Computes.summarize`).
-/

namespace StructureGrader

open ScoreNumber

variable {β : Type}

/-! ## Comparing with checked numbers -/

/-- The pairing with its similarity as a checked number. -/
def Pairing.checked (p : Pairing Rat β) : Pairing Checked β :=
  ⟨p.student, p.reference, .number p.similarity, p.differences⟩

/-- The result of a pass with checked numbers. -/
def PassResult.checked (r : PassResult Rat β) : PassResult Checked β :=
  ⟨r.pairings.map Pairing.checked, r.students, r.references⟩

/-- The summary with checked numbers. -/
def Summary.checked (s : Summary Rat β) : Summary Checked β :=
  { pairings := s.pairings.map Pairing.checked
    unmatchedStudents := s.unmatchedStudents
    unmatchedReferences := s.unmatchedReferences
    overall := .number s.overall
    totalStudents := s.totalStudents
    totalReferences := s.totalReferences }

/-- The differences of elements of a known kind are found without a number. -/
theorem explain_checked (kind : ElementKind) (a b : Option String) :
    explain Checked (some kind) a b = explain Rat (some kind) a b := by
  cases a <;> cases b <;> cases kind <;> rfl

namespace Matcher

/-- The second matcher computes with checked numbers what the first one computes. -/
structure Computes (m : Matcher Rat β) (m' : Matcher Checked β) : Prop where
  view : m'.view = m.view
  score : ∀ a b, m'.score a b = .number (m.score a b)
  threshold : m'.threshold = .number m.threshold

namespace Computes

variable {m : Matcher Rat β} {m' : Matcher Checked β}

/-- The exact choice over checked numbers is the one over numbers, with a checked score. -/
theorem exactChoice (h : m.Computes m') (s : β) (rs : List β) :
    m'.exactChoice s rs =
      (m.exactChoice s rs).map fun (r, v, rest) => (r, .number v, rest) := by
  rw [Matcher.exactChoice, Matcher.exactChoice, h.view, Option.map_map]
  rfl

/-- The best choice over checked numbers is the one over numbers, with a checked score. -/
theorem bestChoice (h : m.Computes m') (s : β) (rs : List β) :
    m'.bestChoice s rs =
      (m.bestChoice s rs).map fun (r, v, rest) => (r, .number v, rest) := by
  have hbest := takeBest_map (f := id) Checked.number_lt
    (fun r => m'.score (m.view s) (m.view r)) (fun r => h.score (m.view s) (m.view r)) zero rs
  rw [List.map_id] at hbest
  rw [Matcher.bestChoice, h.view, h.threshold, Checked.zero_eq, hbest, Matcher.bestChoice]
  rcases takeBest (fun r => m.score (m.view s) (m.view r)) zero rs with _ | ⟨r, v, rest⟩
  · rfl
  · by_cases hv : m.threshold ≤ v <;> simp [Option.filter_some, hv]

/-- A pairing made with checked numbers is the one made with numbers, checked. -/
theorem pair (h : m.Computes m') (s r : β) (v : Rat) :
    m'.pair s r (.number v) = (m.pair s r v).checked := by
  rw [Matcher.pair, h.view, explain_checked]
  rfl

/-- A pass with the same choices comes to the same result. -/
theorem passWith (h : m.Computes m') {choice : Choice Rat β} {choice' : Choice Checked β}
    (hc : ∀ s rs, choice' s rs =
      (choice s rs).map fun (r, v, rest) => (r, Checked.number v, rest)) (ss rs : List β) :
    m'.passWith choice' ss rs = (m.passWith choice ss rs).checked := by
  have hmap := passWith_map (f := id) h.pair (by simpa using hc) ss rs
  simpa [PassResult.checked] using hmap

/-- A pass over checked numbers comes to what the one over numbers does, checked. -/
theorem run (h : m.Computes m') (ss rs : List β) : m'.run ss rs = (m.run ss rs).checked := by
  have hexact : m'.exactPass ss rs = (m.exactPass ss rs).checked := by
    rw [exactPass_eq, exactPass_eq, h.passWith h.exactChoice]
  have hbest : ∀ ss rs : List β, m'.approximatePass ss rs = (m.approximatePass ss rs).checked :=
    fun ss rs => by rw [approximatePass_eq, approximatePass_eq, h.passWith h.bestChoice]
  simp only [Matcher.run, hexact, PassResult.checked, hbest, List.map_append]

/-- The pass over one kind with checked numbers comes to what the one with numbers does, checked. -/
theorem runKind (h : m.Computes m') (ss rs : List β) (kind : ElementKind) :
    m'.runKind ss rs kind = (m.runKind ss rs kind).checked := by
  rw [Matcher.runKind, Matcher.runKind, h.view, h.run]

/-- All kinds come to the same summary, and its overall similarity is a number. -/
theorem summarize (h : m.Computes m') (students references : List β) :
    m'.summarize students references = (m.summarize students references).checked := by
  have hpairings : (m'.summarize students references).pairings =
      (m.summarize students references).pairings.map Pairing.checked := by
    rw [summarize_pairings, summarize_pairings, List.map_flatMap]
    exact List.flatMap_congr fun kind _ => by rw [h.runKind, PassResult.checked]
  have hstudents : (m'.summarize students references).unmatchedStudents =
      (m.summarize students references).unmatchedStudents := by
    rw [summarize_unmatchedStudents, summarize_unmatchedStudents]
    exact List.flatMap_congr fun kind _ => by rw [h.runKind, PassResult.checked]
  have hreferences : (m'.summarize students references).unmatchedReferences =
      (m.summarize students references).unmatchedReferences := by
    rw [summarize_unmatchedReferences, summarize_unmatchedReferences]
    exact List.flatMap_congr fun kind _ => by rw [h.runKind, PassResult.checked]
  have hsimilarities : (m'.summarize students references).pairings.map Pairing.similarity =
      ((m.summarize students references).pairings.map Pairing.similarity).map .number := by
    rw [hpairings, List.map_map, List.map_map]
    rfl
  -- Where there are pairs, there are elements of the submission.
  have hcount : (m.summarize students references).pairings.map Pairing.similarity ≠ [] →
      students.length ≠ 0 := by
    intro hsome
    have hlength := m.summarize_length_students students references
    have hpos : 0 < (m.summarize students references).pairings.length := by
      simpa [List.length_pos_iff] using hsome
    omega
  have hoverall : (m'.summarize students references).overall =
      .number (m.summarize students references).overall := by
    show overallSimilarity ((m'.summarize students references).pairings.map Pairing.similarity)
      students.length references.length = _
    rw [hsimilarities, Checked.overallSimilarity_number hcount]
    rfl
  calc m'.summarize students references
      = ⟨(m'.summarize students references).pairings,
          (m'.summarize students references).unmatchedStudents,
          (m'.summarize students references).unmatchedReferences,
          (m'.summarize students references).overall, students.length, references.length⟩ := rfl
    _ = (m.summarize students references).checked := by
        rw [hpairings, hstudents, hreferences, hoverall]
        rfl

end Computes

/-! ## The similarity of a pair -/

section Pairs

variable {m : Matcher Rat β} {students references : List β} {p : Pairing Rat β}

/-- No pairing of a comparison has the similarity zero. -/
theorem similarity_pos (hp : p ∈ (m.summarize students references).pairings) :
    0 < p.similarity := by
  obtain ⟨kind, hkind⟩ := mem_summarize.1 hp
  rw [runKind, run_pairings, List.mem_append] at hkind
  rcases hkind with hexact | hbest
  · rw [(mem_exactResult hexact).2]
    decide +kernel
  · obtain ⟨⟨hpos, -⟩, hscore⟩ := mem_bestResult hbest
    rw [hscore]
    exact hpos

/-- A score is never above one, so neither is the similarity of a pair. -/
theorem similarity_le_one {w : Weights Rat} (hscore : m.score = w.score)
    (hp : p ∈ (m.summarize students references).pairings) : p.similarity ≤ 1 := by
  obtain ⟨kind, hkind⟩ := mem_summarize.1 hp
  rw [runKind, run_pairings, List.mem_append] at hkind
  rcases hkind with hexact | hbest
  · rw [(mem_exactResult hexact).2]
    exact le_refl 1
  · rw [(mem_bestResult hbest).2, hscore, Weights.score, atMost]
    split_ifs with hlt
    · exact le_of_lt hlt
    · exact le_refl 1

end Pairs

end Matcher

/-! ## The overall similarity -/

section Overall

variable {xs : List Rat} {students references : Nat}

/-- The sum that starts from zero and adds from the left is the sum of the list. -/
theorem sum_eq (xs : List Rat) : ScoreNumber.sum xs = xs.sum :=
  List.sum_eq_foldl.symm

/-- The mean and the share of the larger side come to the sum over the size of that side. -/
theorem overallSimilarity_eq_div (hsome : xs ≠ []) (hstudents : xs.length ≤ students) :
    overallSimilarity xs students references = xs.sum / (max students references : ℕ) := by
  have hpos : 0 < xs.length := List.length_pos_iff.2 hsome
  have hcount : (xs.length : Rat) ≠ 0 := Nat.cast_ne_zero.2 hpos.ne'
  rw [overallSimilarity_of_ne hsome (by omega), sum_eq]
  show xs.sum / (xs.length : Rat) * ((xs.length : Rat) / (max students references : ℕ)) = _
  rw [div_mul_div_cancel₀ hcount]

/-- Similarities that are not above one add up to no more than their number. -/
theorem sum_le_length (hle : ∀ x ∈ xs, x ≤ 1) : xs.sum ≤ xs.length := by
  have hsum := List.sum_le_card_nsmul xs 1 hle
  rwa [nsmul_eq_mul, mul_one] at hsum

/-- They add up to their number only where all of them are one. -/
theorem sum_eq_length_iff (hle : ∀ x ∈ xs, x ≤ 1) :
    xs.sum = xs.length ↔ ∀ x ∈ xs, x = 1 := by
  constructor
  · intro hsum x hx
    by_contra hne
    have hlt : xs.sum < (xs.map fun _ => (1 : Rat)).sum := by
      simpa using List.sum_lt_sum (l := xs) id (fun _ => 1) hle ⟨x, hx, lt_of_le_of_ne (hle x hx) hne⟩
    simp [hsum] at hlt
  · intro hone
    rw [List.eq_replicate_of_mem hone]
    simp

/-- The overall similarity lies between zero and one, is zero only without pairs, and is one only
where the pairs are full and cover both sides. -/
theorem overallSimilarity_scaled (hpos : ∀ x ∈ xs, 0 < x) (hle : ∀ x ∈ xs, x ≤ 1)
    (hstudents : xs.length ≤ students) (hreferences : xs.length ≤ references) :
    (0 ≤ overallSimilarity xs students references ∧
        overallSimilarity xs students references ≤ 1) ∧
      (overallSimilarity xs students references = 0 ↔ xs = []) ∧
      (overallSimilarity xs students references = 1 ↔
        xs ≠ [] ∧ xs.length = students ∧ xs.length = references ∧ ∀ x ∈ xs, x = 1) := by
  by_cases hsome : xs = []
  · have hzero : overallSimilarity xs students references = 0 := by
      rw [hsome]
      exact overallSimilarity_nil _ _
    rw [hzero]
    exact ⟨⟨le_refl 0, zero_le_one⟩, by simp [hsome], by simp [hsome]⟩
  -- The sum is at most the number of pairs, which is at most the size of either side.
  have hsum : 0 < xs.sum := List.sum_pos xs hpos hsome
  have hlength : xs.sum ≤ xs.length := sum_le_length hle
  have hlarger : (xs.length : Rat) ≤ (max students references : ℕ) :=
    Nat.cast_le.2 (le_trans hstudents (le_max_left _ _))
  have hdivisor : (0 : Rat) < (max students references : ℕ) :=
    lt_of_lt_of_le hsum (le_trans hlength hlarger)
  rw [overallSimilarity_eq_div hsome hstudents]
  refine ⟨⟨div_nonneg hsum.le hdivisor.le, (div_le_one hdivisor).2 (hlength.trans hlarger)⟩, ?_, ?_⟩
  · exact iff_of_false (div_pos hsum hdivisor).ne' hsome
  · rw [div_eq_one_iff_eq hdivisor.ne', ← sum_eq_length_iff hle]
    constructor
    · intro heq
      have hmax : max students references = xs.length :=
        Nat.cast_injective (le_antisymm (heq ▸ hlength) hlarger)
      refine ⟨hsome, ?_, ?_, ?_⟩
      · omega
      · omega
      · rw [heq, hmax]
    · rintro ⟨-, hs, hr, heq⟩
      rw [heq, ← hs, ← hr, max_self]

end Overall

/-- The overall similarity of a summary is on the scale of its pairs. -/
theorem Matcher.summarize_scaled {m : Matcher Rat β} {w : Weights Rat} (hscore : m.score = w.score)
    (students references : List β) :
    let s := m.summarize students references
    (0 ≤ s.overall ∧ s.overall ≤ 1) ∧
      (s.pairings ≠ [] → s.overall =
        (s.pairings.map Pairing.similarity).sum / (max students.length references.length : ℕ)) ∧
      (s.overall = 0 ↔ s.pairings = []) ∧
      (s.overall = 1 ↔ students ≠ [] ∧ s.unmatchedStudents = [] ∧ s.unmatchedReferences = [] ∧
        ∀ p ∈ s.pairings, p.similarity = 1) := by
  intro s
  have hstudents : s.pairings.length + s.unmatchedStudents.length = students.length :=
    m.summarize_length_students students references
  have hreferences : s.pairings.length + s.unmatchedReferences.length = references.length :=
    m.summarize_length_references students references
  have hoverall : s.overall =
      overallSimilarity (s.pairings.map Pairing.similarity) students.length references.length := rfl
  have hpos : ∀ x ∈ s.pairings.map Pairing.similarity, 0 < x :=
    List.forall_mem_map.2 fun p hp => similarity_pos hp
  have hle : ∀ x ∈ s.pairings.map Pairing.similarity, x ≤ 1 :=
    List.forall_mem_map.2 fun p hp => similarity_le_one hscore hp
  have hlength : (s.pairings.map Pairing.similarity).length = s.pairings.length :=
    List.length_map _
  have hnone : s.pairings.map Pairing.similarity = [] ↔ s.pairings = [] := List.map_eq_nil_iff
  obtain ⟨hrange, hzero, hone⟩ := overallSimilarity_scaled hpos hle
    (by omega : _ ≤ students.length) (by omega : _ ≤ references.length)
  rw [hoverall]
  refine ⟨hrange, fun hsome => ?_, hzero.trans hnone, hone.trans ?_⟩
  · exact overallSimilarity_eq_div (fun heq => hsome (hnone.1 heq)) (by omega)
  -- There are as many pairs as elements of a side where nothing is left over on it.
  · simp only [ne_eq, hnone, List.forall_mem_map, ← List.length_eq_zero_iff, hlength]
    constructor
    · rintro ⟨hsome, hs, hr, hfull⟩
      exact ⟨by omega, by omega, by omega, hfull⟩
    · rintro ⟨hsome, hs, hr, hfull⟩
      exact ⟨by omega, by omega, by omega, hfull⟩

/-- With exact arithmetic the overall similarity lies between zero and one. It is the sum of the
similarities over the size of the larger side where there are pairs, zero only where there are none,
and one only where something was submitted, nothing is left over and every pair is full. This holds
whatever the weights are, and nothing is divided by zero: on checked numbers every score of two
elements is a number, and the comparison comes to the same summary. -/
theorem compare_scaled (view : β → Element) (weights : Weights Rat) (threshold : Rat) (w : Watch)
    (students references : List β) (s : Summary Rat β)
    (h : Matcher.compare ⟨view, weights.score, threshold⟩ w students references = .ok s) :
    (0 ≤ s.overall ∧ s.overall ≤ 1) ∧
      (s.pairings ≠ [] → s.overall =
        (s.pairings.map Pairing.similarity).sum / (max students.length references.length : ℕ)) ∧
      (s.overall = 0 ↔ s.pairings = []) ∧
      (s.overall = 1 ↔ students ≠ [] ∧ s.unmatchedStudents = [] ∧ s.unmatchedReferences = [] ∧
        ∀ p ∈ s.pairings, p.similarity = 1) ∧
      (∀ a b, (Checked.weights weights).score a b = .number (weights.score a b)) ∧
      Matcher.compare ⟨view, (Checked.weights weights).score, .number threshold⟩ w students
        references = .ok s.checked := by
  obtain ⟨hpass, rfl⟩ := Matcher.compare_eq_ok.1 h
  obtain ⟨hrange, hsum, hzero, hone⟩ := Matcher.summarize_scaled
    (m := ⟨view, weights.score, threshold⟩) rfl students references
  have hcomputes : Matcher.Computes ⟨view, weights.score, threshold⟩
      ⟨view, (Checked.weights weights).score, .number threshold⟩ :=
    ⟨rfl, Checked.score_number weights, rfl⟩
  exact ⟨hrange, hsum, hzero, hone, Checked.score_number weights,
    Matcher.compare_eq_ok.2 ⟨hpass, hcomputes.summarize students references⟩⟩

/-- One method is left over and one pair is only similar, so the overall similarity is neither zero
nor one: it is the sum over the four elements of the larger side, also on checked numbers. -/
theorem compare_scaled_samplePool :
    let view := Matcher.samplePool.view
    let m : Matcher Rat Nat := ⟨view, Weights.default.score, 7 / 10⟩
    let s := m.summarize [0, 4, 0, 2] [1, 3, 4]
    (Weights.default : Weights Rat) = ⟨2 / 5, 3 / 10, 3 / 10⟩ ∧
      s.pairings.map Pairing.similarity = [1, 1, 709 / 910] ∧
      s.overall = (1 + (1 + (709 / 910 + 0))) / (4 : ℕ) ∧
      0 ≤ s.overall ∧ s.overall ≤ 1 ∧ s.overall ≠ 0 ∧ s.overall ≠ 1 ∧
      Matcher.compare ⟨view, Weights.default.score, Checked.number (7 / 10)⟩ {} [0, 4, 0, 2]
        [1, 3, 4] = .ok s.checked := by
  intro view m s
  have hs : m.compare {} [0, 4, 0, 2] [1, 3, 4] = .ok s := rfl
  obtain ⟨⟨hpos, hle⟩, hsum, hzero, hone, -, hchecked⟩ :=
    compare_scaled view Weights.default (7 / 10) {} [0, 4, 0, 2] [1, 3, 4] s hs
  have hsimilarities : s.pairings.map Pairing.similarity = [1, 1, 709 / 910] := by decide +kernel
  have hsome : s.pairings ≠ [] := by
    intro heq
    rw [heq] at hsimilarities
    cases hsimilarities
  have hleft : s.unmatchedStudents = [2] := by decide +kernel
  rw [hsimilarities] at hsum
  rw [Checked.weights_default] at hchecked
  refine ⟨Weights.default_rat, hsimilarities, hsum hsome, hpos, hle, ?_, ?_, hchecked⟩
  · exact fun heq => hsome (hzero.1 heq)
  · intro heq
    obtain ⟨-, hnone, -⟩ := hone.1 heq
    rw [hleft] at hnone
    cases hnone

end StructureGrader
