import StructureGrader.Proofs.Matching.Conservation
import Mathlib.Data.Finset.Union
import Mathlib.Data.Fintype.Fin

/-!
# How many pairs a comparison finds

An element that misses is not tried again, but the pool it missed in only shrinks, so in the end
there is nothing left that it could be paired with. The pairs that a comparison finds are therefore
maximal: no two elements left over are compatible, whichever pass and kind left them over.

How far this is from the best possible follows by counting places. In a set of compatible pairs of
places without a place in common, each pair has a side that does not look like anything left over
(`DisjointPairs.card_le`), and on either side no more places are taken than there are pairs found
(`card_filter_not_mem_le`). So at least half of the best possible number is found
(`compare_maximal`), and there are lists for which it is half (`compare_maximal_samplePool`).
-/

namespace StructureGrader

open ScoreNumber

variable {α β : Type}

/-- The places of a list where something holds are as many as the elements for which it holds. -/
theorem card_filter_getElem (p : β → Prop) [DecidablePred p] (xs : List β) :
    (Finset.univ.filter fun i : Fin xs.length => p xs[i]).card = xs.countP fun x => p x := by
  induction xs with
  | nil => rfl
  | cons x xs ih =>
    rw [List.countP_cons, ← ih, Nat.add_comm]
    simp only [decide_eq_true_eq]
    exact Fin.card_filter_univ_succ' fun i : Fin (xs.length + 1) => p (x :: xs)[i]

/-- Where a list is made of what is paired and what is left over, no more places hold something that
is not left over than there are pairs. -/
theorem card_filter_not_mem_le [DecidableEq β] {xs paired left : List β}
    (h : (paired ++ left).Perm xs) :
    (Finset.univ.filter fun i : Fin xs.length => xs[i] ∉ left).card ≤ paired.length := by
  have hleft : (left.countP fun x => x ∉ left) = 0 := by
    simp [List.countP_eq_zero]
  calc (Finset.univ.filter fun i : Fin xs.length => xs[i] ∉ left).card
      = xs.countP fun x => x ∉ left := card_filter_getElem (· ∉ left) xs
    _ = (paired.countP fun x => x ∉ left) + left.countP fun x => x ∉ left := by
        rw [← h.countP_eq, List.countP_append]
    _ ≤ paired.length := by
        rw [hleft, Nat.add_zero]
        exact List.countP_le_length

namespace Matcher

variable [ScoreNumber α]

/-- A comparison may pair two elements of one kind that have the same name and signature, or that
have a positive score from the threshold on. -/
def Compatible (m : Matcher α β) (s r : β) : Prop :=
  (m.view s).kind = (m.view r).kind ∧
    (((m.view s).name = (m.view r).name ∧ (m.view s).signature = (m.view r).signature) ∨
      m.Reaches s r)

instance (m : Matcher α β) (s r : β) : Decidable (m.Reaches s r) :=
  inferInstanceAs (Decidable (_ ∧ _))

instance (m : Matcher α β) (s r : β) : Decidable (m.Compatible s r) :=
  inferInstanceAs (Decidable (_ ∧ _))

/-- Compatible pairs of places, one in each list, without a place in common. -/
structure DisjointPairs (m : Matcher α β) (students references : List β)
    (pairs : Finset (Fin students.length × Fin references.length)) : Prop where
  compatible : ∀ q ∈ pairs, m.Compatible students[q.1] references[q.2]
  student_once : ∀ p ∈ pairs, ∀ q ∈ pairs, p.1 = q.1 → p = q
  reference_once : ∀ p ∈ pairs, ∀ q ∈ pairs, p.2 = q.2 → p = q

/-! ## Counting places -/

section Counting

variable {m : Matcher α β} {students references : List β}
  {pairs : Finset (Fin students.length × Fin references.length)}

/-- Where no two elements left over are compatible, compatible pairs without a place in common are
at most twice as many as the pairs found: each of them takes a place of something found. -/
theorem DisjointPairs.card_le (hpairs : m.DisjointPairs students references pairs)
    {foundStudents leftStudents foundReferences leftReferences : List β}
    (hstudents : (foundStudents ++ leftStudents).Perm students)
    (hreferences : (foundReferences ++ leftReferences).Perm references)
    (hleft : ∀ x ∈ leftStudents, ∀ y ∈ leftReferences, ¬ m.Compatible x y) :
    pairs.card ≤ foundStudents.length + foundReferences.length := by
  classical
  let takenStudents := pairs.filter fun q => students[q.1] ∉ leftStudents
  let takenReferences := pairs.filter fun q => references[q.2] ∉ leftReferences
  -- A pair with both places left over would be two compatible elements left over.
  have hcover : pairs ⊆ takenStudents ∪ takenReferences := by
    intro q hq
    rw [Finset.mem_union, Finset.mem_filter, Finset.mem_filter]
    by_cases hstudent : students[q.1] ∈ leftStudents
    · have hreference : references[q.2] ∉ leftReferences := fun hmem =>
        hleft _ hstudent _ hmem (hpairs.compatible q hq)
      exact Or.inr ⟨hq, hreference⟩
    · exact Or.inl ⟨hq, hstudent⟩
  -- On either side, places without one in common are no more than the places of what was found.
  have hcardStudents : takenStudents.card ≤ foundStudents.length := by
    refine le_trans (Finset.card_le_card_of_injOn Prod.fst ?_ ?_)
      (card_filter_not_mem_le hstudents)
    · intro q hq
      simpa using (Finset.mem_filter.1 hq).2
    · intro p hp q hq heq
      exact hpairs.student_once p (Finset.mem_filter.1 hp).1 q (Finset.mem_filter.1 hq).1 heq
  have hcardReferences : takenReferences.card ≤ foundReferences.length := by
    refine le_trans (Finset.card_le_card_of_injOn Prod.snd ?_ ?_)
      (card_filter_not_mem_le hreferences)
    · intro q hq
      simpa using (Finset.mem_filter.1 hq).2
    · intro p hp q hq heq
      exact hpairs.reference_once p (Finset.mem_filter.1 hp).1 q (Finset.mem_filter.1 hq).1 heq
  calc pairs.card
      ≤ (takenStudents ∪ takenReferences).card := Finset.card_le_card hcover
    _ ≤ takenStudents.card + takenReferences.card := Finset.card_union_le _ _
    _ ≤ foundStudents.length + foundReferences.length :=
        Nat.add_le_add hcardStudents hcardReferences

end Counting

variable [ScoreOrder α]

/-! ## What both passes find and leave over -/

section Run

variable (m : Matcher α β) (ss rs : List β)

/-- Both passes pair elements that agree or that reach the threshold. -/
theorem run_accepted : ∀ p ∈ (m.run ss rs).pairings,
    (m.view p.student).agrees (m.view p.reference) = true ∨ m.Reaches p.student p.reference := by
  intro p hp
  rw [run_pairings, List.mem_append] at hp
  rcases hp with hexact | hbest
  · exact Or.inl (passWith_accepted m.exactChoice_picks ss rs p hexact)
  · exact Or.inr (passWith_accepted m.bestChoice_picks _ _ p hbest)

/-- Both passes together leave no two elements that agree or that reach the threshold. -/
theorem run_maximal : ∀ x ∈ (m.run ss rs).students, ∀ y ∈ (m.run ss rs).references,
    ¬ ((m.view x).agrees (m.view y) = true ∨ m.Reaches x y) := by
  intro x hx y hy
  rw [run_students] at hx
  rw [run_references] at hy
  rintro (hagrees | hreaches)
  -- What the approximate pass leaves over the exact one has left over, too.
  · have hx' := (passWith_students_sublist _ _).subset hx
    have hy' := (passWith_references_sublist m.bestChoice_removes _ _).subset hy
    exact passWith_maximal m.exactChoice_picks ss rs x hx' y hy' hagrees
  · exact passWith_maximal m.bestChoice_picks _ _ x hx y hy hreaches

end Run

section Summarize

variable {m : Matcher α β} {students references : List β}

/-- The pairs of a comparison are compatible. -/
theorem summarize_compatible {p : Pairing α β}
    (hp : p ∈ (m.summarize students references).pairings) :
    m.Compatible p.student p.reference := by
  refine ⟨summarize_same_kind hp, ?_⟩
  rw [summarize_pairings] at hp
  obtain ⟨kind, -, hkind⟩ := List.mem_flatMap.1 hp
  exact (m.run_accepted _ _ p hkind).imp_left Element.agrees_iff.1

/-- The elements that a comparison leaves over are not compatible. -/
theorem summarize_maximal {x y : β}
    (hx : x ∈ (m.summarize students references).unmatchedStudents)
    (hy : y ∈ (m.summarize students references).unmatchedReferences) :
    ¬ m.Compatible x y := by
  rintro ⟨hkind, hor⟩
  rw [summarize_unmatchedStudents] at hx
  rw [summarize_unmatchedReferences] at hy
  obtain ⟨i, -, hi⟩ := List.mem_flatMap.1 hx
  obtain ⟨j, -, hj⟩ := List.mem_flatMap.1 hy
  have hxi : (m.view x).kind = i :=
    kind_of_mem_ofKind ((m.run_students_perm _ _).subset (List.mem_append_right _ hi))
  have hyj : (m.view y).kind = j :=
    kind_of_mem_ofKind ((m.run_references_perm _ _).subset (List.mem_append_right _ hj))
  obtain rfl : i = j := by rw [← hxi, ← hyj, hkind]
  exact m.run_maximal _ _ x hi y hj (hor.imp_left Element.agrees_iff.2)

end Summarize

/-- The pairs of a comparison are compatible, no two elements left over are, and at least half as
many pairs are found as there are in any set of compatible pairs without a place in common. -/
theorem compare_maximal (m : Matcher α β) (w : Watch) (students references : List β)
    (s : Summary α β) (h : m.compare w students references = .ok s) :
    (∀ p ∈ s.pairings, m.Compatible p.student p.reference) ∧
      (∀ x ∈ s.unmatchedStudents, ∀ y ∈ s.unmatchedReferences, ¬ m.Compatible x y) ∧
      ∀ pairs, m.DisjointPairs students references pairs →
        pairs.card ≤ 2 * s.pairings.length := by
  obtain ⟨-, rfl⟩ := compare_eq_ok.1 h
  refine ⟨fun p hp => summarize_compatible hp, fun x hx y hy => summarize_maximal hx hy,
    fun pairs hpairs => ?_⟩
  have hcard := hpairs.card_le (m.summarize_students_perm students references)
    (m.summarize_references_perm students references) fun x hx y hy => summarize_maximal hx hy
  rw [List.length_map, List.length_map] at hcard
  omega

/-- The exact pass takes the only reference that the second method could have had, so one pair is
found where there could be two. -/
theorem compare_maximal_samplePool :
    let m := samplePool.matcher 0.8
    let s := m.summarize [2, 0] [2, 3]
    s.pairings.length = 1 ∧ s.unmatchedStudents = [0] ∧ s.unmatchedReferences = [3] ∧
      (∀ p ∈ s.pairings, m.Compatible p.student p.reference) ∧ ¬ m.Compatible 0 3 ∧
      m.DisjointPairs [2, 0] [2, 3] {(0, 1), (1, 0)} ∧
      ({(0, 1), (1, 0)} : Finset (Fin 2 × Fin 2)).card ≤ 2 * s.pairings.length := by
  intro m s
  have hs : m.compare {} [2, 0] [2, 3] = .ok s := rfl
  obtain ⟨hpairings, hleft, hhalf⟩ := compare_maximal m {} [2, 0] [2, 3] s hs
  have hstudents : s.unmatchedStudents = [0] := by decide +kernel
  have hreferences : s.unmatchedReferences = [3] := by decide +kernel
  have hpairs : m.DisjointPairs [2, 0] [2, 3] {(0, 1), (1, 0)} :=
    ⟨by decide +kernel, by decide +kernel, by decide +kernel⟩
  refine ⟨by decide +kernel, hstudents, hreferences, hpairings, ?_, hpairs, hhalf _ hpairs⟩
  exact hleft 0 (by simp [hstudents]) 3 (by simp [hreferences])

end Matcher

end StructureGrader
