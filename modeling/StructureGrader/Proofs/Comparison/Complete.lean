import StructureGrader.Proofs.Comparison.Outcomes
import StructureGrader.Proofs.Difference.Symmetry
import StructureGrader.Proofs.Number.Counting

/-!
# Complete submissions

A submission is complete when it has the kinds, names and signatures of the reference, each as often,
in whatever order and with whatever sources (`Element.key`). Each element then finds a reference that
agrees with it: the exact pass takes one out for one, and what is left has the same names and
signatures on both sides again (`Matcher.exactResult_of_perm`). So the approximate pass gets nothing
to work on, the pairs cover both sides, and the marks are full whatever the threshold
(`Session.compare_complete`).
-/

namespace StructureGrader

open ScoreNumber

variable {α β : Type}

/-- Two elements agree where they have the same kind, name and signature. -/
theorem Element.agrees_iff_label {a b : Element} : a.agrees b = true ↔ a.label = b.label := by
  rw [agrees_iff, label, label, Prod.mk.injEq]

/-- Lists with the same keys have, kind by kind, the same names and signatures. -/
theorem label_ofKind_perm (view : β → Element) {xs ys : List β}
    (h : (xs.map fun x => (view x).key).Perm (ys.map fun y => (view y).key)) (kind : ElementKind) :
    ((ofKind view kind xs).map fun x => (view x).label).Perm
      ((ofKind view kind ys).map fun y => (view y).label) := by
  have hkeys : ∀ zs : List β, ((ofKind view kind zs).map fun z => (view z).label) =
      ((zs.map fun z => (view z).key).filter fun k => k.1 == kind).map Prod.snd := fun zs => by
    rw [List.filter_map, List.map_map]
    rfl
  rw [hkeys, hkeys]
  exact (h.filter _).map _

namespace Matcher

variable [ScoreNumber α] (m : Matcher α β)

/-! ## The passes on the elements of one kind -/

/-- Where both sides have the same names and signatures the exact pass leaves nothing over. -/
theorem exactResult_of_perm {ss rs : List β}
    (h : (ss.map fun x => (m.view x).label).Perm (rs.map fun y => (m.view y).label)) :
    (m.exactResult ss rs).students = [] ∧ (m.exactResult ss rs).references = [] := by
  -- By induction on the submission: an element and its partner leave equal labels to the others.
  induction ss generalizing rs with
  | nil =>
    obtain rfl : rs = [] := List.map_eq_nil_iff.1 h.symm.eq_nil
    exact ⟨rfl, rfl⟩
  | cons s ss ih =>
    rw [List.map_cons] at h
    rcases hs : m.exactChoice s rs with _ | ⟨r, v, rest⟩
    · obtain ⟨r, hr, hlabel⟩ := List.mem_map.1 (h.subset List.mem_cons_self)
      exact absurd (Element.agrees_iff_label.2 hlabel.symm) (m.exactChoice_picks.complete hs r hr)
    · have hlabel : (m.view s).label = (m.view r).label :=
        Element.agrees_iff_label.1 (m.exactChoice_picks.accepted hs)
      have hpool := (m.exactChoice_removes.perm hs).map fun y => (m.view y).label
      have hrest := h.trans hpool
      rw [List.map_cons, hlabel] at hrest
      rw [exactResult, passWith_cons_some hs]
      exact ih hrest.cons_inv

/-- Nothing is left over by both passes, and all pairs come from the exact one. -/
theorem run_of_perm {ss rs : List β}
    (h : (ss.map fun x => (m.view x).label).Perm (rs.map fun y => (m.view y).label)) :
    (m.run ss rs).students = [] ∧ (m.run ss rs).references = [] ∧
      (m.run ss rs).pairings = (m.exactResult ss rs).pairings := by
  obtain ⟨hstudents, hreferences⟩ := m.exactResult_of_perm h
  have hbest : m.bestResult ss rs = ⟨[], [], []⟩ := by
    rw [bestResult, hstudents, hreferences]
    rfl
  rw [run_students, run_references, run_pairings, hbest]
  exact ⟨rfl, rfl, List.append_nil _⟩

/-! ## All kinds -/

variable {students references : List β}
  (h : (students.map fun x => (m.view x).key).Perm (references.map fun y => (m.view y).key))
include h

/-- When the submission is the reference list in another order, nothing is left over on either side.
-/
theorem unmatched_of_perm : (m.summarize students references).unmatchedStudents = [] ∧
    (m.summarize students references).unmatchedReferences = [] := by
  -- Keys that are the same on both sides are so for each kind.
  have hkind := fun kind => m.run_of_perm (label_ofKind_perm m.view h kind)
  rw [summarize_unmatchedStudents, summarize_unmatchedReferences]
  exact ⟨List.flatMap_eq_nil_iff.2 fun kind _ => (hkind kind).1,
    List.flatMap_eq_nil_iff.2 fun kind _ => (hkind kind).2.1⟩

/-- All pairs are of equal elements, with full similarity and without differences. -/
theorem pairings_of_perm {p : Pairing α β} (hp : p ∈ (m.summarize students references).pairings) :
    (m.view p.student).key = (m.view p.reference).key ∧ p.similarity = one ∧
      p.differences = [] := by
  have hsame := summarize_same_kind hp
  obtain ⟨kind, hkind⟩ := mem_summarize.1 hp
  have hdifferences := differences_of_mem_run hkind
  rw [runKind, (m.run_of_perm (label_ofKind_perm m.view h kind)).2.2] at hkind
  obtain ⟨hagrees, hfull⟩ := mem_exactResult hkind
  have hlabel := Element.agrees_iff_label.1 hagrees
  have hsignature : (m.view p.student).signature = (m.view p.reference).signature :=
    congrArg Prod.snd hlabel
  rw [hsignature, explain_self] at hdifferences
  exact ⟨Prod.ext hsame hlabel, hfull, hdifferences⟩

/-- The overall similarity is that of full similarities that cover both sides. -/
theorem overall_of_perm [ScoreCounting α] (hne : students ≠ [])
    (hlimit : (students.length : ℕ∞) ≤ ScoreCounting.limit α) :
    (m.summarize students references).overall = one := by
  obtain ⟨hstudents, hreferences⟩ := m.unmatched_of_perm h
  have hpaired := m.summarize_length_students students references
  have hlength : students.length = references.length := by
    simpa using h.length_eq
  rw [hstudents, List.length_nil, add_zero] at hpaired
  -- There are as many pairs as elements on either side, each of them with full similarity.
  have hfull : (m.summarize students references).pairings.map Pairing.similarity =
      List.replicate students.length one := by
    rw [List.eq_replicate_iff, List.length_map]
    refine ⟨hpaired, fun v hv => ?_⟩
    obtain ⟨p, hp, rfl⟩ := List.mem_map.1 hv
    exact (m.pairings_of_perm h hp).2.1
  show overallSimilarity ((m.summarize students references).pairings.map Pairing.similarity)
    students.length references.length = one
  rw [hfull, ← hlength]
  exact overallSimilarity_ones (List.length_pos_iff.2 hne) hlimit

end Matcher

namespace Session

variable [ScoreNumber α] [ScoreScale α] [ScoreCounting α]

/-- A complete submission gets full marks, whatever the threshold: nothing is left over, every pair
is of equal kind, name and signature, with full similarity and without differences, every element
ends as an exact match, and the overall similarity is exactly one for as many elements as can be
counted exactly, which is any number of them with rational numbers and `2 ^ 53` with doubles. -/
theorem compare_complete (s : Session α) (threshold : α) (w : Watch)
    (students references : List Nat) (hne : students ≠ [])
    (hkeys : (students.map fun x => (s.view x).key).Perm (references.map fun y => (s.view y).key))
    (hpass : w.firstStop 0 ElementKind.all = none) :
    ∃ summary after, s.compare threshold w students references = (.ok summary, after) ∧
      summary.unmatchedStudents = [] ∧ summary.unmatchedReferences = [] ∧
      (∀ p ∈ summary.pairings, (s.view p.student).key = (s.view p.reference).key ∧
        p.similarity = one ∧ p.differences = []) ∧
      (∀ x ∈ students ++ references, after.outcomes x = ⟨true, some .exact, one⟩) ∧
      ((students.length : ℕ∞) ≤ ScoreCounting.limit α → summary.overall = one) := by
  have hcompare := s.compare_of_none threshold students references hpass
  obtain ⟨hstudents, hreferences⟩ := (s.matcher threshold).unmatched_of_perm hkeys
  have hpairs := fun p => (s.matcher threshold).pairings_of_perm (p := p) hkeys
  refine ⟨_, _, hcompare, hstudents, hreferences, hpairs, fun x hx => ?_,
    (s.matcher threshold).overall_of_perm hkeys hne⟩
  obtain ⟨⟨-, -, hpaired, -⟩, -⟩ := written_of_compare hcompare
  -- The element is left over on no side, so the last pair that holds it says what stands on it.
  have hreference : x ∉ ((s.matcher threshold).summarize students references).result.references := by
    rw [Summary.result, hreferences]
    exact List.not_mem_nil
  have hstudent : x ∉ ((s.matcher threshold).summarize students references).result.students := by
    rw [Summary.result, hstudents]
    exact List.not_mem_nil
  have hheld := (s.matcher threshold).mem_summarize_result hx
  obtain ⟨p, hlast, houtcome⟩ := hpaired x hreference hstudent
    ((hheld.resolve_left hreference).resolve_left hstudent)
  rw [houtcome, (hpairs p hlast.mem).2.1, if_pos ScoreScale.exactThreshold_le_one]

/-- Two methods that look the same, a constructor without a name or a signature, and a field; then
the same once more in another order and with other sources. -/
def completePool : Session Float :=
  fresh #[⟨some "size", .method, some "int size()", some "return 1;", 1, "A.java", "a"⟩,
    ⟨none, .constructor, none, none, 2, "A.java", "a"⟩,
    ⟨some "size", .method, some "int size()", some "return 2;", 3, "A.java", "a"⟩,
    ⟨some "n", .field, some "int n", some "int n;", 4, "A.java", "a"⟩,
    ⟨some "n", .field, some "int n", some "", 9, "B.java", ""⟩,
    ⟨some "size", .method, some "int size()", none, 8, "B.java", ""⟩,
    ⟨some "size", .method, some "int size()", some "while (true);", 7, "B.java", ""⟩,
    ⟨none, .constructor, none, some "this();", 6, "B.java", ""⟩]

/-- The methods are paired in their order, and the marks are full although the sources differ and
only the same would be accepted by the second pass. -/
theorem compare_complete_completePool :
    let m := completePool.matcher 1.0
    let summary := m.summarize [0, 1, 2, 3] [4, 5, 6, 7]
    ∃ after, completePool.compare 1.0 {} [0, 1, 2, 3] [4, 5, 6, 7] = (.ok summary, after) ∧
      summary.pairings.map (fun p => (p.student, p.reference)) =
        [(3, 4), (0, 5), (2, 6), (1, 7)] ∧
      m.score (m.view 0) (m.view 5) < 1.0 ∧
      (∀ p ∈ summary.pairings, p.similarity = 1.0 ∧ p.differences = []) ∧
      after.outcomes 2 = ⟨true, some .exact, 1.0⟩ ∧ summary.overall = 1.0 := by
  intro m summary
  have hkeys : ([0, 1, 2, 3].map fun x => (completePool.view x).key).Perm
      ([4, 5, 6, 7].map fun y => (completePool.view y).key) := by decide +kernel
  obtain ⟨found, after, hcompare, -, -, hpairs, houtcomes, hoverall⟩ :=
    compare_complete completePool 1.0 {} [0, 1, 2, 3] [4, 5, 6, 7] (by decide) hkeys rfl
  obtain ⟨-, rfl, -⟩ := compare_eq_ok.1 hcompare
  exact ⟨after, hcompare, by decide +kernel, by decide +kernel, fun p hp => (hpairs p hp).2,
    houtcomes 2 (by decide), hoverall (ScoreCounting.le_limit_float (by decide))⟩

end Session

end StructureGrader
