import StructureGrader.Session
import StructureGrader.Proofs.Matching.Pass
import Mathlib.Data.List.Nodup

/-!
# Nothing is lost in a comparison

A comparison splits both lists by kind, runs two passes on each part, and puts the results together.
On either side, what it pairs and what it leaves over are the elements of that side, each once for
every time it stands in the list, and a pair is of one kind (`compare_partition`). The elements are
counted as they are, not by what they look like: two that look the same are two, and one that stands
in a list twice, or on both sides, is counted wherever it stands.
-/

namespace StructureGrader

variable {α β : Type}

/-! ## Kinds -/

/-- Lists by kind that differ in one kind alone differ, put together, in one place alone. -/
theorem ElementKind.flatMap_split {γ : Type} (k : ElementKind) {f g : ElementKind → List γ}
    (h : ∀ j, j ≠ k → f j = g j) :
    ∃ front back, all.flatMap f = front ++ (f k ++ back) ∧
      all.flatMap g = front ++ (g k ++ back) := by
  -- The kind stands once in the list of all kinds, so it is in neither part around it.
  obtain ⟨before, after, hall⟩ := List.append_of_mem (mem_all k)
  have hnodup : (before ++ k :: after).Nodup := by
    rw [← hall]
    decide
  have hnot : k ∉ before ++ after := (List.nodup_cons.1 (List.nodup_middle.1 hnodup)).1
  have hbefore : before.flatMap f = before.flatMap g :=
    List.flatMap_congr fun j hj => h j fun heq => hnot (by simp [← heq, hj])
  have hafter : after.flatMap f = after.flatMap g :=
    List.flatMap_congr fun j hj => h j fun heq => hnot (by simp [← heq, hj])
  refine ⟨before.flatMap g, after.flatMap g, ?_, ?_⟩
  · rw [hall, List.flatMap_append, List.flatMap_cons, hbefore, hafter]
  · rw [hall, List.flatMap_append, List.flatMap_cons]

/-- The elements of one kind in two lists are those in the first and those in the second. -/
theorem ofKind_append (view : β → Element) (kind : ElementKind) (xs ys : List β) :
    ofKind view kind (xs ++ ys) = ofKind view kind xs ++ ofKind view kind ys :=
  List.filter_append ..

/-- An element in front belongs to those of its own kind. -/
theorem ofKind_cons_of_eq (view : β → Element) (x : β) (xs : List β) :
    ofKind view (view x).kind (x :: xs) = x :: ofKind view (view x).kind xs := by
  simp [ofKind]

/-- An element in front does not belong to those of another kind. -/
theorem ofKind_cons_of_ne (view : β → Element) {x : β} (xs : List β) {kind : ElementKind}
    (h : kind ≠ (view x).kind) : ofKind view kind (x :: xs) = ofKind view kind xs := by
  simp [ofKind, h.symm]

/-- The elements of all kinds are the elements of the list. -/
theorem flatMap_ofKind_perm (view : β → Element) (xs : List β) :
    (ElementKind.all.flatMap fun kind => ofKind view kind xs).Perm xs := by
  induction xs with
  | nil => exact List.Perm.refl []
  | cons x xs ih =>
    -- The head adds to the part of its own kind and to no other.
    obtain ⟨front, back, hcons, htail⟩ :=
      ElementKind.flatMap_split (view x).kind (f := fun kind => ofKind view kind (x :: xs))
        (g := fun kind => ofKind view kind xs) fun kind hne => ofKind_cons_of_ne view xs hne
    rw [htail] at ih
    rw [hcons, ofKind_cons_of_eq]
    exact List.perm_middle.trans (ih.cons x)

/-- Where every kind is split into paired and left over on one side, so is the whole side. -/
theorem flatMap_kinds_perm (view : β → Element) (side : Pairing α β → β)
    (left : PassResult α β → List β) (results : ElementKind → PassResult α β) (xs : List β)
    (h : ∀ kind, ((results kind).pairings.map side ++ left (results kind)).Perm
      (ofKind view kind xs)) :
    ((ElementKind.all.flatMap fun kind => (results kind).pairings).map side ++
      ElementKind.all.flatMap fun kind => left (results kind)).Perm xs := by
  rw [List.map_flatMap]
  exact (List.flatMap_append_perm _ _ _).trans
    ((List.Perm.flatMap_left _ fun kind _ => h kind).trans (flatMap_ofKind_perm view xs))

/-- Those listed as of one kind are of that kind. -/
theorem kind_of_mem_ofKind {view : β → Element} {kind : ElementKind} {xs : List β} {x : β}
    (h : x ∈ ofKind view kind xs) : (view x).kind = kind :=
  beq_iff_eq.1 (List.mem_filter.1 h).2

/-- There are as many elements of one kind as are counted to be of it. -/
theorem length_ofKind (view : β → Element) (kind : ElementKind) (xs : List β) :
    (ofKind view kind xs).length = xs.countP fun x => (view x).kind == kind :=
  List.countP_eq_length_filter.symm

namespace Matcher

variable [ScoreNumber α]

/-! ## All kinds -/

section Summarize

variable (m : Matcher α β) (students references : List β)

/-- The pairings of the summary are those of each kind, kind by kind. -/
theorem summarize_pairings : (m.summarize students references).pairings =
    ElementKind.all.flatMap fun kind => (m.runKind students references kind).pairings := by
  simp only [summarize, List.flatMap_map]

/-- The students left over in the summary are those of each kind, kind by kind. -/
theorem summarize_unmatchedStudents : (m.summarize students references).unmatchedStudents =
    ElementKind.all.flatMap fun kind => (m.runKind students references kind).students := by
  simp only [summarize, List.flatMap_map]

/-- The references left over in the summary are those of each kind, kind by kind. -/
theorem summarize_unmatchedReferences : (m.summarize students references).unmatchedReferences =
    ElementKind.all.flatMap fun kind => (m.runKind students references kind).references := by
  simp only [summarize, List.flatMap_map]

/-- A comparison pairs or leaves over each element of the submission. -/
theorem summarize_students_perm :
    ((m.summarize students references).pairings.map Pairing.student ++
      (m.summarize students references).unmatchedStudents).Perm students := by
  rw [summarize_pairings, summarize_unmatchedStudents]
  exact flatMap_kinds_perm m.view _ _ _ students fun kind => m.run_students_perm _ _

/-- A comparison pairs or leaves over each reference. -/
theorem summarize_references_perm :
    ((m.summarize students references).pairings.map Pairing.reference ++
      (m.summarize students references).unmatchedReferences).Perm references := by
  rw [summarize_pairings, summarize_unmatchedReferences]
  exact flatMap_kinds_perm m.view _ _ _ references fun kind => m.run_references_perm _ _

/-- Every student is paired or left over. -/
theorem summarize_length_students :
    (m.summarize students references).pairings.length +
      (m.summarize students references).unmatchedStudents.length = students.length := by
  have h := (m.summarize_students_perm students references).length_eq
  rwa [List.length_append, List.length_map] at h

/-- Every reference is paired or left over. -/
theorem summarize_length_references :
    (m.summarize students references).pairings.length +
      (m.summarize students references).unmatchedReferences.length = references.length := by
  have h := (m.summarize_references_perm students references).length_eq
  rwa [List.length_append, List.length_map] at h

variable {m students references}

/-- A pair found for a kind is of that kind on both sides. -/
theorem kind_of_mem_runKind {kind : ElementKind} {p : Pairing α β}
    (hp : p ∈ (m.runKind students references kind).pairings) :
    (m.view p.student).kind = kind ∧ (m.view p.reference).kind = kind := by
  have hstudent : p.student ∈ ofKind m.view kind students :=
    (m.run_students_perm _ _).subset (List.mem_append_left _ (List.mem_map_of_mem hp))
  have hreference : p.reference ∈ ofKind m.view kind references :=
    (m.run_references_perm _ _).subset (List.mem_append_left _ (List.mem_map_of_mem hp))
  exact ⟨kind_of_mem_ofKind hstudent, kind_of_mem_ofKind hreference⟩

/-- The sides of a pair are of one kind. -/
theorem summarize_same_kind {p : Pairing α β}
    (hp : p ∈ (m.summarize students references).pairings) :
    (m.view p.student).kind = (m.view p.reference).kind := by
  rw [summarize_pairings] at hp
  obtain ⟨kind, -, hkind⟩ := List.mem_flatMap.1 hp
  obtain ⟨hstudent, hreference⟩ := kind_of_mem_runKind hkind
  rw [hstudent, hreference]

/-- A pair of a comparison was found by both passes on the elements of its kind. -/
theorem mem_summarize {p : Pairing α β} :
    p ∈ (m.summarize students references).pairings ↔
      ∃ kind, p ∈ (m.runKind students references kind).pairings := by
  rw [summarize_pairings, List.mem_flatMap]
  exact exists_congr fun kind => and_iff_right (ElementKind.mem_all kind)

/-- A comparison that is not stopped gives the summary. -/
theorem compare_eq_ok {w : Watch} {s : Summary α β} :
    m.compare w students references = .ok s ↔
      w.firstStop 0 ElementKind.all = none ∧ m.summarize students references = s := by
  rw [compare]
  rcases w.firstStop 0 ElementKind.all with _ | stop <;> simp

end Summarize

/-- On either side, what a comparison pairs and what it leaves over are the elements of that side,
and a pair is of one kind; so the counts of each kind add up. -/
theorem compare_partition (m : Matcher α β) (w : Watch) (students references : List β)
    (s : Summary α β) (h : m.compare w students references = .ok s) :
    (s.pairings.map Pairing.student ++ s.unmatchedStudents).Perm students ∧
      (s.pairings.map Pairing.reference ++ s.unmatchedReferences).Perm references ∧
      (∀ p ∈ s.pairings, (m.view p.student).kind = (m.view p.reference).kind) ∧
      ∀ kind,
        (kindCounts m.view s kind).matched + (kindCounts m.view s kind).extra =
            (ofKind m.view kind students).length ∧
          (kindCounts m.view s kind).matched + (kindCounts m.view s kind).missing =
            (ofKind m.view kind references).length := by
  obtain ⟨-, rfl⟩ := compare_eq_ok.1 h
  have hstudents := m.summarize_students_perm students references
  have hreferences := m.summarize_references_perm students references
  refine ⟨hstudents, hreferences, fun p hp => summarize_same_kind hp, fun kind => ⟨?_, ?_⟩⟩
  -- A pair is counted for the kind of its reference, which is that of its student.
  · have hside : ∀ p ∈ (m.summarize students references).pairings,
        ((m.view p.reference).kind == kind) = ((m.view p.student).kind == kind) :=
      fun p hp => by rw [summarize_same_kind hp]
    rw [length_ofKind, ← hstudents.countP_eq, List.countP_append, List.countP_map]
    exact congrArg (· + _) (List.countP_congr fun p hp => by simp [hside p hp])
  · rw [length_ofKind, ← hreferences.countP_eq, List.countP_append, List.countP_map]
    rfl

/-- A pool with two methods that look the same, two with longer names, and a field. -/
def samplePool : Session Float :=
  .fresh #[⟨some "size", .method, some "int size()", some "", 1, "", ""⟩,
    ⟨some "size", .method, some "int size()", some "", 2, "", ""⟩,
    ⟨some "sizes", .method, some "int sizes()", some "", 3, "", ""⟩,
    ⟨some "sizesof", .method, some "int sizesof()", some "", 4, "", ""⟩,
    ⟨some "n", .field, some "int n", some "", 5, "", ""⟩]

/-- One method stands twice on one side and is paired twice; the field stands on both sides. -/
theorem compare_partition_samplePool :
    let m := samplePool.matcher 0.7
    let s := m.summarize [0, 4, 0, 2] [1, 3, 4]
    m.compare {} [0, 4, 0, 2] [1, 3, 4] = .ok s ∧
      s.pairings.map Pairing.student = [4, 0, 0] ∧
      (s.pairings.map Pairing.student ++ s.unmatchedStudents).Perm [0, 4, 0, 2] ∧
      (s.pairings.map Pairing.reference ++ s.unmatchedReferences).Perm [1, 3, 4] ∧
      (kindCounts m.view s .method).matched + (kindCounts m.view s .method).extra = 3 := by
  intro m s
  have hs : m.compare {} [0, 4, 0, 2] [1, 3, 4] = .ok s := rfl
  obtain ⟨hstudents, hreferences, -, hcounts⟩ :=
    compare_partition m {} [0, 4, 0, 2] [1, 3, 4] s hs
  have hmethods : (ofKind m.view .method [0, 4, 0, 2]).length = 3 := by decide +kernel
  exact ⟨hs, by decide +kernel, hstudents, hreferences, (hcounts .method).1.trans hmethods⟩

end Matcher

end StructureGrader
