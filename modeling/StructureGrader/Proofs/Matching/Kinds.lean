import StructureGrader.Proofs.Matching.Conservation

/-!
# One kind after the other

What a comparison finds for one kind is decided by the elements of that kind alone, on both sides:
a summary can be taken apart by kind, and its parts are the results of the two passes
(`pairingsOf_summarize`, `ofKind_unmatchedStudents`, `ofKind_unmatchedReferences`). So elements of
other kinds may be added, left out or put anywhere in between without a trace in that part.

Put together, the parts stand in the order of the kinds. Within a kind the pairs of the exact pass
stand first. They are the pairs of elements that agree, for what the exact pass leaves over does not
agree any more (`not_agrees_of_mem_bestResult`), and each pass keeps the order of its input
(`passWith_pairings_sublist`). `Summary.InOrder` says so of a summary, and `compare_by_kind` puts both
together.
-/

namespace StructureGrader

variable {α β : Type}

/-- Lists of things of one kind each, put together, can be taken apart by kind again. -/
theorem filter_flatMap_kinds {γ : Type} (kindOf : γ → ElementKind) (f : ElementKind → List γ)
    (h : ∀ kind, ∀ x ∈ f kind, kindOf x = kind) (kind : ElementKind) :
    (ElementKind.all.flatMap f).filter (fun x => kindOf x == kind) = f kind := by
  -- Of each list the filter keeps all or nothing.
  have hpart : ∀ j, (f j).filter (fun x => kindOf x == kind) = if j = kind then f j else [] := by
    intro j
    split_ifs with hj
    · exact List.filter_eq_self.2 fun x hx => by simp [h j x hx, hj]
    · exact List.filter_eq_nil_iff.2 fun x hx => by simp [h j x hx, hj]
  rw [List.filter_flatMap, List.flatMap_congr fun j _ => hpart j]
  cases kind <;> simp [ElementKind.all]

namespace Summary

/-- The pairs of one kind, which is that of their references. -/
def pairingsOf (s : Summary α β) (view : β → Element) (kind : ElementKind) :
    List (Pairing α β) :=
  s.pairings.filter fun p => (view p.reference).kind == kind

variable [ScoreNumber α]

/-- The pairs of one kind whose elements have the same name and signature. -/
def agreeing (s : Summary α β) (m : Matcher α β) (kind : ElementKind) : List (Pairing α β) :=
  (s.pairingsOf m.view kind).filter fun p => (m.view p.student).agrees (m.view p.reference)

/-- The pairs of one kind whose elements differ in name or signature. -/
def differing (s : Summary α β) (m : Matcher α β) (kind : ElementKind) : List (Pairing α β) :=
  (s.pairingsOf m.view kind).filter fun p => !(m.view p.student).agrees (m.view p.reference)

/-- The summary stands in the order of the kinds and, for each kind, in the order of its input. -/
structure InOrder (m : Matcher α β) (students references : List β) (s : Summary α β) : Prop where
  /-- The pairs stand by kind, for each kind those of elements that agree in front. -/
  pairings_by_kind : s.pairings =
    ElementKind.all.flatMap fun kind => s.agreeing m kind ++ s.differing m kind
  /-- The pairs in front are those of the exact pass. -/
  agreeing : ∀ kind, s.agreeing m kind =
    (m.exactPass (ofKind m.view kind students) (ofKind m.view kind references)).pairings
  /-- The pairs behind are those of the approximate pass on what the exact one leaves over. -/
  differing : ∀ kind,
    let exact := m.exactPass (ofKind m.view kind students) (ofKind m.view kind references)
    s.differing m kind = (m.approximatePass exact.students exact.references).pairings
  agreeing_order : ∀ kind,
    ((s.agreeing m kind).map Pairing.student).Sublist (ofKind m.view kind students)
  differing_order : ∀ kind,
    ((s.differing m kind).map Pairing.student).Sublist (ofKind m.view kind students)
  students_by_kind : s.unmatchedStudents =
    ElementKind.all.flatMap fun kind => ofKind m.view kind s.unmatchedStudents
  students_order : ∀ kind,
    (ofKind m.view kind s.unmatchedStudents).Sublist (ofKind m.view kind students)
  references_by_kind : s.unmatchedReferences =
    ElementKind.all.flatMap fun kind => ofKind m.view kind s.unmatchedReferences
  references_order : ∀ kind,
    (ofKind m.view kind s.unmatchedReferences).Sublist (ofKind m.view kind references)

end Summary

namespace Matcher

variable [ScoreNumber α] (m : Matcher α β)

/-! ## The order within a kind -/

/-- A pass finds its pairs in the order of the submission. -/
theorem passWith_pairings_sublist (choice : Choice α β) (ss rs : List β) :
    ((m.passWith choice ss rs).pairings.map Pairing.student).Sublist ss := by
  induction ss generalizing rs with
  | nil => exact List.Sublist.refl []
  | cons s ss ih =>
    rcases hs : choice s rs with _ | ⟨r, v, rest⟩
    · rw [passWith_cons_none hs, PassResult.leaveFirst_pairings]
      exact (ih rs).cons s
    · rw [passWith_cons_some hs, PassResult.pairFirst_pairings, List.map_cons]
      exact (ih rest).cons_cons s

section Run

variable {m} {ss rs : List β} {p : Pairing α β}

/-- The approximate pass pairs no elements that agree: the exact pass has left none. -/
theorem not_agrees_of_mem_bestResult (hp : p ∈ (m.bestResult ss rs).pairings) :
    (m.view p.student).agrees (m.view p.reference) = false := by
  have hstudent : p.student ∈ (m.exactResult ss rs).students :=
    (passWith_students_perm _ _).subset (List.mem_append_left _ (List.mem_map_of_mem hp))
  have hreference : p.reference ∈ (m.exactResult ss rs).references :=
    (passWith_references_perm m.bestChoice_removes _ _).subset
      (List.mem_append_left _ (List.mem_map_of_mem hp))
  exact Bool.eq_false_iff.2
    (passWith_maximal m.exactChoice_picks ss rs _ hstudent _ hreference)

/-- The pairs of elements that agree are those of the exact pass. -/
theorem filter_agrees_run :
    (m.run ss rs).pairings.filter (fun p => (m.view p.student).agrees (m.view p.reference)) =
      (m.exactResult ss rs).pairings := by
  have hexact := List.filter_eq_self.2 fun p (hp : p ∈ (m.exactResult ss rs).pairings) =>
    (mem_exactResult hp).1
  have hbest := List.filter_eq_nil_iff.2 fun p (hp : p ∈ (m.bestResult ss rs).pairings) =>
    Bool.eq_false_iff.1 (not_agrees_of_mem_bestResult hp)
  rw [run_pairings, List.filter_append, hexact, hbest, List.append_nil]

/-- All other pairs are those of the approximate pass. -/
theorem filter_not_agrees_run :
    (m.run ss rs).pairings.filter (fun p => !(m.view p.student).agrees (m.view p.reference)) =
      (m.bestResult ss rs).pairings := by
  have hexact : (m.exactResult ss rs).pairings.filter
      (fun p => !(m.view p.student).agrees (m.view p.reference)) = [] :=
    List.filter_eq_nil_iff.2 fun p hp => by simp [(mem_exactResult hp).1]
  have hbest : (m.bestResult ss rs).pairings.filter
      (fun p => !(m.view p.student).agrees (m.view p.reference)) = (m.bestResult ss rs).pairings :=
    List.filter_eq_self.2 fun p hp => by simp [not_agrees_of_mem_bestResult hp]
  rw [run_pairings, List.filter_append, hexact, hbest, List.nil_append]

/-- The two passes keep the order of what they leave over. -/
theorem run_students_sublist : (m.run ss rs).students.Sublist ss := by
  rw [run_students]
  exact (passWith_students_sublist _ _).trans (passWith_students_sublist ss rs)

/-- The references left over are some of those that were there, in order. -/
theorem run_references_sublist : (m.run ss rs).references.Sublist rs := by
  rw [run_references]
  exact (passWith_references_sublist m.bestChoice_removes _ _).trans
    (passWith_references_sublist m.exactChoice_removes ss rs)

end Run

/-! ## The parts of a summary -/

section Parts

variable (students references : List β) (kind : ElementKind)

/-- The pairings of one kind in the summary are those found for that kind. -/
theorem pairingsOf_summarize : (m.summarize students references).pairingsOf m.view kind =
    (m.runKind students references kind).pairings := by
  rw [Summary.pairingsOf, summarize_pairings]
  exact filter_flatMap_kinds (fun p : Pairing α β => (m.view p.reference).kind)
    (fun kind => (m.runKind students references kind).pairings)
    (fun kind p hp => (kind_of_mem_runKind hp).2) kind

/-- The students of one kind left over in the summary are those left over for that kind. -/
theorem ofKind_unmatchedStudents :
    ofKind m.view kind (m.summarize students references).unmatchedStudents =
      (m.runKind students references kind).students := by
  rw [ofKind, summarize_unmatchedStudents]
  exact filter_flatMap_kinds (fun x => (m.view x).kind)
    (fun kind => (m.runKind students references kind).students)
    (fun kind x hx => kind_of_mem_ofKind (run_students_sublist.subset hx)) kind

/-- The references of one kind left over in the summary are those left over for that kind. -/
theorem ofKind_unmatchedReferences :
    ofKind m.view kind (m.summarize students references).unmatchedReferences =
      (m.runKind students references kind).references := by
  rw [ofKind, summarize_unmatchedReferences]
  exact filter_flatMap_kinds (fun x => (m.view x).kind)
    (fun kind => (m.runKind students references kind).references)
    (fun kind x hx => kind_of_mem_ofKind (run_references_sublist.subset hx)) kind

/-- The pairings that agree, of one kind, are those of the exact pass. -/
theorem agreeing_summarize : (m.summarize students references).agreeing m kind =
    (m.exactResult (ofKind m.view kind students) (ofKind m.view kind references)).pairings := by
  rw [Summary.agreeing, pairingsOf_summarize, runKind, filter_agrees_run]

/-- The pairings that differ, of one kind, are those of the pass for the best scores. -/
theorem differing_summarize : (m.summarize students references).differing m kind =
    (m.bestResult (ofKind m.view kind students) (ofKind m.view kind references)).pairings := by
  rw [Summary.differing, pairingsOf_summarize, runKind, filter_not_agrees_run]

end Parts

/-- Every summary stands in the order of the kinds and of its input. -/
theorem summarize_inOrder (students references : List β) :
    (m.summarize students references).InOrder m students references where
  pairings_by_kind := by
    rw [summarize_pairings]
    refine List.flatMap_congr fun kind _ => ?_
    rw [agreeing_summarize, differing_summarize, runKind, run_pairings]
  agreeing kind := by rw [agreeing_summarize, exactPass_eq, exactResult]
  differing kind := by
    intro exact
    rw [differing_summarize, approximatePass_eq, bestResult, exactResult, ← exactPass_eq]
  agreeing_order kind := by
    rw [agreeing_summarize]
    exact m.passWith_pairings_sublist _ _ _
  differing_order kind := by
    -- The approximate pass works on what the exact one leaves over, which is in order as well.
    rw [differing_summarize]
    exact (m.passWith_pairings_sublist _ _ _).trans (passWith_students_sublist _ _)
  students_by_kind := by
    simp only [ofKind_unmatchedStudents]
    exact m.summarize_unmatchedStudents students references
  students_order kind := by
    rw [ofKind_unmatchedStudents]
    exact run_students_sublist
  references_by_kind := by
    simp only [ofKind_unmatchedReferences]
    exact m.summarize_unmatchedReferences students references
  references_order kind := by
    rw [ofKind_unmatchedReferences]
    exact run_references_sublist

/-- The summary of a comparison stands in the order of the kinds and of its input, and what it says
of a kind is decided by the elements of that kind alone: another comparison whose lists have the
same elements of that kind in the same order finds the same pairs and leaves the same elements over.
-/
theorem compare_by_kind (m : Matcher α β) (w : Watch) (students references : List β)
    (s : Summary α β) (h : m.compare w students references = .ok s) :
    s.InOrder m students references ∧
      ∀ (kind : ElementKind) (w' : Watch) (students' references' : List β) (s' : Summary α β),
        m.compare w' students' references' = .ok s' →
        ofKind m.view kind students = ofKind m.view kind students' →
        ofKind m.view kind references = ofKind m.view kind references' →
          s.pairingsOf m.view kind = s'.pairingsOf m.view kind ∧
            ofKind m.view kind s.unmatchedStudents = ofKind m.view kind s'.unmatchedStudents ∧
            ofKind m.view kind s.unmatchedReferences =
              ofKind m.view kind s'.unmatchedReferences := by
  obtain ⟨-, rfl⟩ := compare_eq_ok.1 h
  refine ⟨m.summarize_inOrder students references, ?_⟩
  intro kind w' students' references' s' h' hstudents hreferences
  obtain ⟨-, rfl⟩ := compare_eq_ok.1 h'
  -- Both passes get the same lists, so they come to the same result.
  have hrun : m.runKind students references kind = m.runKind students' references' kind := by
    rw [runKind, hstudents, hreferences, runKind]
  refine ⟨?_, ?_, ?_⟩
  · rw [pairingsOf_summarize, pairingsOf_summarize, hrun]
  · rw [ofKind_unmatchedStudents, ofKind_unmatchedStudents, hrun]
  · rw [ofKind_unmatchedReferences, ofKind_unmatchedReferences, hrun]

/-- The field comes first in the summary although it comes last in the lists, and with the field at
another place, or without it, the same is found for the methods. -/
theorem compare_by_kind_samplePool :
    let m := samplePool.matcher 0.7
    let s := m.summarize [3, 0, 2, 0, 4] [1, 2, 3, 4]
    let s' := m.summarize [4, 3, 0, 4, 2, 0] [1, 2, 3]
    s.pairings.map (fun p => (p.student, p.reference)) = [(4, 4), (3, 3), (0, 1), (2, 2)] ∧
      s'.pairings.map (fun p => (p.student, p.reference)) = [(3, 3), (0, 1), (2, 2)] ∧
      s.InOrder m [3, 0, 2, 0, 4] [1, 2, 3, 4] ∧
      s.pairingsOf m.view .method = s'.pairingsOf m.view .method ∧
      ofKind m.view .method s.unmatchedStudents = ofKind m.view .method s'.unmatchedStudents := by
  intro m s s'
  have hs : m.compare {} [3, 0, 2, 0, 4] [1, 2, 3, 4] = .ok s := rfl
  have hs' : m.compare {} [4, 3, 0, 4, 2, 0] [1, 2, 3] = .ok s' := rfl
  obtain ⟨horder, hkind⟩ := compare_by_kind m {} [3, 0, 2, 0, 4] [1, 2, 3, 4] s hs
  obtain ⟨hpairings, hstudents, -⟩ :=
    hkind .method {} _ _ s' hs' (by decide +kernel) (by decide +kernel)
  exact ⟨by decide +kernel, by decide +kernel, horder, hpairings, hstudents⟩

end Matcher

end StructureGrader
