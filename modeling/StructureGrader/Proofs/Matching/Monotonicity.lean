import StructureGrader.Proofs.Matching.Conservation
import Mathlib.Data.List.Flatten

/-!
# How a comparison follows its input

Greedy passes part ways as soon as one input differs: an early element takes what a later one would
have had, and the pairs from there on are others. What stays is a relation between the pools of the
two runs, and the consistency of the choices (`Choice.Follows`) carries it through every step.

Under a lower threshold the pool stays inside the pool of the higher threshold, so no fewer elements
are paired (`compare_lower_threshold`). One more element on one side leaves the two runs apart by
one element: either a reference is left to spare, or an element of the submission has found one
(`Spare`). So it unpairs nothing on the other side, and at most one pair is added
(`compare_one_more`).
-/

namespace StructureGrader

open ScoreNumber PassResult

variable {α β : Type}

namespace Matcher

variable [ScoreNumber α]

/-! ## A lower threshold -/

/-- A choice that follows another leaves a smaller pool. -/
theorem passWith_references_mono {m m' : Matcher α β} {loose strict : Choice α β}
    (hloose : loose.Removes) (hfollows : loose.Follows strict) (ss : List β) {xs ys : List β}
    (hsub : xs.Sublist ys) :
    (m.passWith loose ss xs).references.Sublist (m'.passWith strict ss ys).references := by
  -- By induction on the elements of the submission; the invariant is that the pool of the loose
  -- choice is a part of the pool of the strict one.
  induction ss generalizing xs ys with
  | nil => exact hsub
  | cons s ss ih =>
    rcases hy : strict s ys with _ | ⟨r, v, rest⟩
    · obtain ⟨left, hleft, heq⟩ := passWith_references_cons (m := m) hloose s ss xs
      rw [heq, passWith_cons_none hy, leaveFirst_references]
      exact ih (hleft.trans hsub)
    · rw [passWith_cons_some hy, pairFirst_references]
      rcases hfollows hsub hy with hrest | ⟨left, hx, hleft⟩
      -- What the strict choice picks has left the pool of the loose one before.
      · obtain ⟨left, hleft, heq⟩ := passWith_references_cons (m := m) hloose s ss xs
        rw [heq]
        exact ih (hleft.trans hrest)
      · rw [passWith_cons_some hx, pairFirst_references]
        exact ih hleft

variable [ScoreOrder α]

/-- With a lower threshold, the references left over are some of those left over with a higher one.
-/
theorem run_references_mono (m : Matcher α β) {low high : α} (hle : low ≤ high)
    (ss rs : List β) :
    (({ m with threshold := low } : Matcher α β).run ss rs).references.Sublist
      (({ m with threshold := high } : Matcher α β).run ss rs).references := by
  rw [run_references, run_references, bestResult, bestResult, m.exactResult_threshold ss rs low,
    m.exactResult_threshold ss rs high]
  exact passWith_references_mono (bestChoice_removes _)
    (m.bestChoice_follows low high fun v hv => ScoreOrder.le_trans hle hv) _ (List.Sublist.refl _)

/-- Under a lower threshold no other reference is left over, and no fewer pairs are found. -/
theorem compare_lower_threshold (m : Matcher α β) (low high : α) (hle : low ≤ high)
    (w w' : Watch) (students references : List β) (s s' : Summary α β)
    (h : ({ m with threshold := low } : Matcher α β).compare w students references = .ok s)
    (h' : ({ m with threshold := high } : Matcher α β).compare w' students references = .ok s') :
    s.unmatchedReferences.Sublist s'.unmatchedReferences ∧
      s'.pairings.length ≤ s.pairings.length := by
  obtain ⟨-, rfl⟩ := compare_eq_ok.1 h
  obtain ⟨-, rfl⟩ := compare_eq_ok.1 h'
  have hsub : (({ m with threshold := low } : Matcher α β).summarize
      students references).unmatchedReferences.Sublist
        (({ m with threshold := high } : Matcher α β).summarize
          students references).unmatchedReferences := by
    rw [summarize_unmatchedReferences, summarize_unmatchedReferences]
    exact List.Sublist.flatMap_right _ fun kind _ => m.run_references_mono hle _ _
  -- What is not left over is paired, so the counts of pairs compare the other way round.
  have hlow := summarize_length_references { m with threshold := low } students references
  have hhigh := summarize_length_references { m with threshold := high } students references
  have hlen := hsub.length_le
  exact ⟨hsub, by omega⟩

/-- Under the higher threshold the first method misses and the second one takes its partner. -/
theorem compare_lower_threshold_samplePool :
    let m := samplePool.matcher 0.7
    let low := ({ m with threshold := 0.7 } : Matcher Float Nat).summarize [3, 2] [0, 1]
    let high := ({ m with threshold := 0.88 } : Matcher Float Nat).summarize [3, 2] [0, 1]
    low.pairings.map (fun p => (p.student, p.reference)) = [(3, 0), (2, 1)] ∧
      high.pairings.map (fun p => (p.student, p.reference)) = [(2, 0)] ∧
      low.unmatchedReferences.Sublist high.unmatchedReferences ∧
      high.pairings.length ≤ low.pairings.length := by
  intro m low high
  have hle : (0.7 : Float) ≤ 0.88 := by decide +kernel
  have hlow : ({ m with threshold := 0.7 } : Matcher Float Nat).compare {} [3, 2] [0, 1] =
      .ok low := rfl
  have hhigh : ({ m with threshold := 0.88 } : Matcher Float Nat).compare {} [3, 2] [0, 1] =
      .ok high := rfl
  obtain ⟨hsub, hlen⟩ :=
    compare_lower_threshold m 0.7 0.88 hle {} {} [3, 2] [0, 1] low high hlow hhigh
  exact ⟨by decide +kernel, by decide +kernel, hsub, hlen⟩

end Matcher

/-! ## One more element -/

/-- The second list has one more element than the first, at any place. -/
def OneMore (xs ys : List β) : Prop :=
  xs.Sublist ys ∧ ys.length = xs.length + 1

namespace OneMore

variable {xs ys zs : List β}

/-- A list with one element put in anywhere has one more. -/
theorem insert (x : β) (xs ys : List β) : OneMore (xs ++ ys) (xs ++ x :: ys) := by
  refine ⟨(List.Sublist.refl xs).append (List.sublist_cons_self x ys), ?_⟩
  simp only [List.length_append, List.length_cons]
  omega

/-- Two lists of which one has one more stay so with an element in front of both. -/
theorem cons (x : β) (h : OneMore xs ys) : OneMore (x :: xs) (x :: ys) :=
  ⟨h.1.cons_cons x, by simp [h.2]⟩

/-- Two lists of which one has one more stay so with other elements around both. -/
theorem append (front back : List β) (h : OneMore xs ys) :
    OneMore (front ++ (xs ++ back)) (front ++ (ys ++ back)) := by
  refine ⟨(List.Sublist.refl front).append (h.1.append (List.Sublist.refl back)), ?_⟩
  simp only [List.length_append, h.2]
  omega

end OneMore

/-- The second of two states, each of elements to pair and references left, has one partner to spare
over the first: one reference more, or one element of the submission less. -/
def Spare (ss rs ss' rs' : List β) : Prop :=
  (ss' = ss ∧ OneMore rs rs') ∨ (OneMore ss' ss ∧ rs' = rs)

namespace Spare

variable {ss rs ss' rs' : List β}

/-- With a spare element, the students left over are among those left over without it. -/
theorem students_sublist (h : Spare ss rs ss' rs') : ss'.Sublist ss := by
  rcases h with ⟨rfl, -⟩ | ⟨hmore, -⟩
  · exact List.Sublist.refl _
  · exact hmore.1

/-- With a spare element, the references left over without it are among those left over with it. -/
theorem references_sublist (h : Spare ss rs ss' rs') : rs.Sublist rs' := by
  rcases h with ⟨-, hmore⟩ | ⟨-, rfl⟩
  · exact hmore.1
  · exact List.Sublist.refl _

/-- Nothing has become of the partner to spare, or an element of the submission has found it. -/
theorem lengths (h : Spare ss rs ss' rs') :
    (ss'.length = ss.length ∧ rs'.length = rs.length + 1) ∨
      (ss.length = ss'.length + 1 ∧ rs'.length = rs.length) := by
  rcases h with ⟨rfl, hmore⟩ | ⟨hmore, rfl⟩
  · exact Or.inl ⟨rfl, hmore.2⟩
  · exact Or.inr ⟨hmore.2, rfl⟩

/-- Leftovers with a spare element stay so with a student in front. -/
theorem cons (s : β) (h : Spare ss rs ss' rs') : Spare (s :: ss) rs (s :: ss') rs' := by
  rcases h with ⟨rfl, hmore⟩ | ⟨hmore, rfl⟩
  · exact Or.inl ⟨rfl, hmore⟩
  · exact Or.inr ⟨hmore.cons s, rfl⟩

/-- Leftovers with a spare element stay so with other leftovers around them. -/
theorem append (front back front' back' : List β) (h : Spare ss rs ss' rs') :
    Spare (front ++ (ss ++ back)) (front' ++ (rs ++ back')) (front ++ (ss' ++ back))
      (front' ++ (rs' ++ back')) := by
  rcases h with ⟨rfl, hmore⟩ | ⟨hmore, rfl⟩
  · exact Or.inl ⟨rfl, hmore.append front' back'⟩
  · exact Or.inr ⟨hmore.append front back, rfl⟩

end Spare

namespace Matcher

variable [ScoreNumber α] {m : Matcher α β} {choice : Choice α β} {accepts : β → β → Prop}

/-- An element of the submission that stands first either is left over or takes a reference. Where
one more reference is a partner to spare for the others, so is one element less for all. -/
theorem passWith_spare_cons (hremoves : choice.Removes) (s : β) (ss rs : List β)
    (hspare : ∀ ⦃xs ys⦄, OneMore xs ys →
      Spare (m.passWith choice ss xs).students (m.passWith choice ss xs).references
        (m.passWith choice ss ys).students (m.passWith choice ss ys).references) :
    Spare (m.passWith choice (s :: ss) rs).students (m.passWith choice (s :: ss) rs).references
      (m.passWith choice ss rs).students (m.passWith choice ss rs).references := by
  rcases hs : choice s rs with _ | ⟨r, v, rest⟩
  · rw [passWith_cons_none hs, leaveFirst_students, leaveFirst_references]
    exact Or.inr ⟨OneMore.insert s [] _, rfl⟩
  · rw [passWith_cons_some hs, pairFirst_students, pairFirst_references]
    exact hspare ⟨hremoves.sublist hs, hremoves.length hs⟩

/-- A reference to spare is spare after a pass, or an element of the submission has found one. -/
theorem passWith_spare_reference (hpicks : choice.Picks accepts)
    (hfollows : choice.Follows choice) (ss : List β) {rs rs' : List β} (h : OneMore rs rs') :
    Spare (m.passWith choice ss rs).students (m.passWith choice ss rs).references
      (m.passWith choice ss rs').students (m.passWith choice ss rs').references := by
  induction ss generalizing rs rs' with
  | nil => exact Or.inl ⟨rfl, h⟩
  | cons s ss ih =>
    rcases hs' : choice s rs' with _ | ⟨r, v, rest'⟩
    · have hs := hpicks.none_of_sublist h.1 hs'
      simp only [passWith_cons_none hs, passWith_cons_none hs', leaveFirst_students,
        leaveFirst_references]
      exact (ih h).cons s
    · rw [passWith_cons_some hs', pairFirst_students, pairFirst_references]
      have hlen := hpicks.removes.length hs'
      rcases hfollows h.1 hs' with hrest | ⟨rest, hs, hrest⟩
      -- The pick is the reference to spare: without it both pools are the same.
      · obtain rfl : rs = rest' := hrest.eq_of_length (by have := h.2; omega)
        exact passWith_spare_cons hpicks.removes s ss rs fun _ _ hmore => ih hmore
      · have hlen' := hpicks.removes.length hs
        rw [passWith_cons_some hs, pairFirst_students, pairFirst_references]
        exact ih ⟨hrest, by have := h.2; omega⟩

/-- A partner to spare is spare after a pass. -/
theorem passWith_spare (hpicks : choice.Picks accepts) (hfollows : choice.Follows choice)
    {ss rs ss' rs' : List β} (h : Spare ss rs ss' rs') :
    Spare (m.passWith choice ss rs).students (m.passWith choice ss rs).references
      (m.passWith choice ss' rs').students (m.passWith choice ss' rs').references := by
  rcases h with ⟨rfl, hmore⟩ | ⟨⟨hsub, hlen⟩, rfl⟩
  · exact passWith_spare_reference hpicks hfollows ss' hmore
  -- The runs agree up to the element that one of them lacks.
  · induction hsub generalizing rs' with
    | slnil => simp at hlen
    | @cons ss' ss s hsub ih =>
      obtain rfl : ss' = ss := hsub.eq_of_length (by simpa using hlen.symm)
      exact passWith_spare_cons hpicks.removes s ss' rs' fun _ _ hmore =>
        passWith_spare_reference hpicks hfollows ss' hmore
    | @cons_cons ss' ss s hsub ih =>
      rcases hs : choice s rs' with _ | ⟨r, v, rest⟩
      · simp only [passWith_cons_none hs, leaveFirst_students, leaveFirst_references]
        exact (ih (by simpa using hlen)).cons s
      · simp only [passWith_cons_some hs, pairFirst_students, pairFirst_references]
        exact ih (by simpa using hlen)

variable [ScoreOrder α]

/-- The approximate pass picks from a pool what it picks from every part that holds it. -/
theorem bestChoice_follows_self (m : Matcher α β) : m.bestChoice.Follows m.bestChoice :=
  m.bestChoice_follows m.threshold m.threshold fun _ hv => hv

/-- A partner to spare is spare after both passes. -/
theorem run_spare (m : Matcher α β) {ss rs ss' rs' : List β} (h : Spare ss rs ss' rs') :
    Spare (m.run ss rs).students (m.run ss rs).references
      (m.run ss' rs').students (m.run ss' rs').references := by
  rw [run_students, run_students, run_references, run_references]
  have hexact := passWith_spare (m := m) m.exactChoice_picks m.exactChoice_follows h
  exact passWith_spare m.bestChoice_picks m.bestChoice_follows_self hexact

/-- Two comparisons that differ in one kind alone, by a partner to spare, differ by a partner to
spare. -/
theorem summarize_spare (m : Matcher α β) {students references students' references' : List β}
    (kind : ElementKind)
    (hother : ∀ j, j ≠ kind → m.runKind students references j = m.runKind students' references' j)
    (hkind : Spare (ofKind m.view kind students) (ofKind m.view kind references)
      (ofKind m.view kind students') (ofKind m.view kind references')) :
    Spare (m.summarize students references).unmatchedStudents
      (m.summarize students references).unmatchedReferences
      (m.summarize students' references').unmatchedStudents
      (m.summarize students' references').unmatchedReferences := by
  simp only [summarize_unmatchedStudents, summarize_unmatchedReferences]
  obtain ⟨front, back, hs, hs'⟩ := ElementKind.flatMap_split kind
    (f := fun j => (m.runKind students references j).students)
    (g := fun j => (m.runKind students' references' j).students)
    fun j hj => by rw [hother j hj]
  obtain ⟨front', back', hr, hr'⟩ := ElementKind.flatMap_split kind
    (f := fun j => (m.runKind students references j).references)
    (g := fun j => (m.runKind students' references' j).references)
    fun j hj => by rw [hother j hj]
  rw [hs, hs', hr, hr']
  exact (m.run_spare hkind).append front back front' back'

/-- With one more reference a comparison has a partner to spare. -/
theorem summarize_spare_reference (m : Matcher α β) (students before after : List β) (x : β) :
    Spare (m.summarize students (before ++ after)).unmatchedStudents
      (m.summarize students (before ++ after)).unmatchedReferences
      (m.summarize students (before ++ x :: after)).unmatchedStudents
      (m.summarize students (before ++ x :: after)).unmatchedReferences := by
  refine m.summarize_spare (m.view x).kind (fun j hj => ?_) (Or.inl ⟨rfl, ?_⟩)
  · rw [runKind, runKind, ofKind_append, ofKind_append, ofKind_cons_of_ne m.view after hj]
  · rw [ofKind_append, ofKind_append, ofKind_cons_of_eq]
    exact OneMore.insert x _ _

/-- With one element less in the submission a comparison has a partner to spare. -/
theorem summarize_spare_student (m : Matcher α β) (before after references : List β) (x : β) :
    Spare (m.summarize (before ++ x :: after) references).unmatchedStudents
      (m.summarize (before ++ x :: after) references).unmatchedReferences
      (m.summarize (before ++ after) references).unmatchedStudents
      (m.summarize (before ++ after) references).unmatchedReferences := by
  refine m.summarize_spare (m.view x).kind (fun j hj => ?_) (Or.inr ⟨?_, rfl⟩)
  · rw [runKind, runKind, ofKind_append, ofKind_append, ofKind_cons_of_ne m.view after hj]
  · rw [ofKind_append, ofKind_append, ofKind_cons_of_eq]
    exact OneMore.insert x _ _

/-- One more element at any place of one side leaves no other element of the other side over, and
at most one pair is added. -/
theorem compare_one_more (m : Matcher α β) (before after : List β) (x : β) :
    (∀ w w' students s s', m.compare w students (before ++ after) = .ok s →
      m.compare w' students (before ++ x :: after) = .ok s' →
        s'.unmatchedStudents.Sublist s.unmatchedStudents ∧
          (s'.pairings.length = s.pairings.length ∨
            s'.pairings.length = s.pairings.length + 1)) ∧
      ∀ w w' references s s', m.compare w (before ++ after) references = .ok s →
        m.compare w' (before ++ x :: after) references = .ok s' →
          s'.unmatchedReferences.Sublist s.unmatchedReferences ∧
            (s'.pairings.length = s.pairings.length ∨
              s'.pairings.length = s.pairings.length + 1) := by
  constructor
  · intro w w' students s s' h h'
    obtain ⟨-, rfl⟩ := compare_eq_ok.1 h
    obtain ⟨-, rfl⟩ := compare_eq_ok.1 h'
    have hspare := m.summarize_spare_reference students before after x
    have hlen := m.summarize_length_students students (before ++ after)
    have hlen' := m.summarize_length_students students (before ++ x :: after)
    refine ⟨hspare.students_sublist, ?_⟩
    rcases hspare.lengths with ⟨heq, -⟩ | ⟨heq, -⟩
    · left; omega
    · right; omega
  · intro w w' references s s' h h'
    obtain ⟨-, rfl⟩ := compare_eq_ok.1 h
    obtain ⟨-, rfl⟩ := compare_eq_ok.1 h'
    have hspare := m.summarize_spare_student before after references x
    have hlen := m.summarize_length_references (before ++ after) references
    have hlen' := m.summarize_length_references (before ++ x :: after) references
    refine ⟨hspare.references_sublist, ?_⟩
    rcases hspare.lengths with ⟨-, heq⟩ | ⟨-, heq⟩
    · right; omega
    · left; omega

/-- The reference that the first method now agrees with leaves its former partner to the second. -/
theorem compare_one_more_samplePool :
    let m := samplePool.matcher 0.7
    let s := m.summarize [3, 0] [2]
    let s' := m.summarize [3, 0] [3, 2]
    let t := m.summarize [2] [0, 2]
    let t' := m.summarize [3, 2] [0, 2]
    s.unmatchedStudents = [0] ∧ s'.unmatchedStudents.Sublist s.unmatchedStudents ∧
      (s'.pairings.length = s.pairings.length ∨ s'.pairings.length = s.pairings.length + 1) ∧
      t.unmatchedReferences = [0] ∧
      t'.unmatchedReferences.Sublist t.unmatchedReferences ∧
      (t'.pairings.length = t.pairings.length ∨ t'.pairings.length = t.pairings.length + 1) := by
  intro m s s' t t'
  obtain ⟨hreference, hstudent⟩ := compare_one_more m [] [2] 3
  have hs : m.compare {} [3, 0] [2] = .ok s := rfl
  have hs' : m.compare {} [3, 0] [3, 2] = .ok s' := rfl
  obtain ⟨hstudents, hlen⟩ := hreference {} {} [3, 0] s s' hs hs'
  have ht : m.compare {} [2] [0, 2] = .ok t := rfl
  have ht' : m.compare {} [3, 2] [0, 2] = .ok t' := rfl
  obtain ⟨hreferences, hlen'⟩ := hstudent {} {} [0, 2] t t' ht ht'
  exact ⟨by decide +kernel, hstudents, hlen, by decide +kernel, hreferences, hlen'⟩

end Matcher

end StructureGrader
