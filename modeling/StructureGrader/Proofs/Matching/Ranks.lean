import StructureGrader.Proofs.Comparison.Complete
import StructureGrader.Proofs.Matching.Assignment
import StructureGrader.Proofs.Matching.Renaming

/-!
# The exact pass as an assignment

The exact pass pairs equals in step. Of the places that carry one name and one signature, the first
of the submission goes with the first of the reference list, the second with the second, and so on
as long as both lists have one (`Assignment.InStep`). This leaves no choice, so it says all about
the pass, whatever labels stand in between. Places are what is paired, so an element may stand in a
list more than once; it is found, and taken out, at the first of its places that is left
(`takeFirst_split`).

The pass comes to that although it looks for one label at a time and takes what it finds out of a
pool for all labels. An element that finds nothing has a label that the pool does not hold, so its
place has no twin there (`not_twins_zero`), and the others have the twins that they have without it
(`twins_succ_of_forall_ne`). An element that finds a partner takes the first place of its label on
both sides (`twins_zero_of_first`). The later places of that label then move up by one rank on both
sides, and those of the other labels stay (`twins_succ_of_first`). `exactPass_exists` carries this
through the submission, and `exactPass_inStep` is the result for the whole pass.
-/

namespace StructureGrader

open ScoreNumber

variable {α β γ : Type} {n k : Nat}

namespace Assignment

/-! ## The places of a label -/

section Places

variable [DecidableEq γ]

/-- The places of a pool at which a label stands, in the order of the pool. -/
def placesOf (labels : Fin n → γ) (pool : List (Fin n)) (label : γ) : List (Fin n) :=
  pool.filter fun i => labels i = label

variable {labels : Fin n → γ} {pool front back : List (Fin n)} {label : γ} {j : Fin n}

/-- A label that nothing in the pool has stands at no place. -/
theorem placesOf_eq_nil (h : ∀ i ∈ pool, labels i ≠ label) : placesOf labels pool label = [] := by
  simpa [placesOf] using h

/-- A place in the middle is the first of its label where none stands in front of it. -/
theorem placesOf_middle (hfront : ∀ i ∈ front, labels i ≠ labels j) :
    placesOf labels (front ++ j :: back) (labels j) =
      j :: placesOf labels (front ++ back) (labels j) := by
  have hnone : placesOf labels front (labels j) = [] := placesOf_eq_nil hfront
  simp only [placesOf, List.filter_append, List.filter_cons, decide_true, if_true] at hnone ⊢
  rw [hnone, List.nil_append, List.nil_append]

/-- A place in the middle is none of another label. -/
theorem placesOf_middle_of_ne (hne : labels j ≠ label) :
    placesOf labels (front ++ j :: back) label = placesOf labels (front ++ back) label := by
  simp [placesOf, hne]

variable {labels : Fin (n + 1) → γ}

/-- The places of a list of which the head carries the label. -/
theorem placesOf_succ :
    placesOf labels (List.finRange (n + 1)) (labels 0) =
      0 :: (placesOf (fun i => labels i.succ) (List.finRange n) (labels 0)).map Fin.succ := by
  simp [placesOf, List.finRange_succ, List.filter_map, Function.comp_def]

/-- The places of a list of which the head carries another label. -/
theorem placesOf_succ_of_ne (hne : labels 0 ≠ label) :
    placesOf labels (List.finRange (n + 1)) label =
      (placesOf (fun i => labels i.succ) (List.finRange n) label).map Fin.succ := by
  simp [placesOf, List.finRange_succ, List.filter_map, Function.comp_def, hne]

end Places

section Zip

variable {xs : List (Fin n)} {ys : List (Fin k)} {i : Fin n} {j : Fin k}

/-- The head of a list is not among the places behind it. -/
theorem zero_notMem_zip : (0, j) ∉ (xs.map Fin.succ).zip ys := by
  rw [List.zip_map_left]
  simp [Fin.succ_ne_zero]

/-- Two places are of one rank, one student further on, where they were so before. -/
theorem succ_mem_zip : (i.succ, j) ∈ (xs.map Fin.succ).zip ys ↔ (i, j) ∈ xs.zip ys := by
  rw [List.zip_map_left]
  simp

end Zip

/-! ## Assignments in step -/

section InStep

variable [ScoreNumber α] [DecidableEq γ]

/-- Two places carry the same label and have the same rank among the places of that label, each on
its side. -/
def Twins (students : Fin n → γ) (references : Fin k → γ) (pool : List (Fin k)) (i : Fin n)
    (j : Fin k) : Prop :=
  ∃ label, (i, j) ∈
    (placesOf students (List.finRange n) label).zip (placesOf references pool label)

section Twins

variable {students : Fin n → γ} {references : Fin k → γ} {pool : List (Fin k)} {i : Fin n}
  {j : Fin k}

/-- Two positions are twins where they have one rank among the positions with one label. -/
theorem twins_iff_rank : Twins students references pool i j ↔
    ∃ (label : γ) (rank : Nat), (placesOf students (List.finRange n) label)[rank]? = some i ∧
      (placesOf references pool label)[rank]? = some j := by
  simp only [Twins, List.mem_iff_getElem?, List.getElem?_zip_eq_some]

/-- A reference with a twin lies in the pool. -/
theorem Twins.mem_pool (h : Twins students references pool i j) : j ∈ pool := by
  obtain ⟨label, hmem⟩ := h
  exact List.mem_of_mem_filter (List.of_mem_zip hmem).2

end Twins

/-- The pairs are the places of the same label and the same rank, with full similarity. -/
def InStep (students : Fin n → γ) (references : Fin k → γ) (pool : List (Fin k))
    (a : Assignment α n k) : Prop :=
  ∀ i j v, a.partner i = some (j, v) ↔ v = one ∧ Twins students references pool i j

variable {students : Fin (n + 1) → γ} {references : Fin k → γ} {pool front back : List (Fin k)}
  {i : Fin n} {j j' : Fin k} {a : Assignment α n k}

/-- A place has no twin where the pool does not hold its label. -/
theorem not_twins_zero (hnone : ∀ x ∈ pool, references x ≠ students 0) :
    ¬ Twins students references pool 0 j := by
  rintro ⟨label, hmem⟩
  by_cases hlabel : students 0 = label
  · have hnil : placesOf references pool label = [] := placesOf_eq_nil (hlabel ▸ hnone)
    rw [hnil, List.zip_nil_right] at hmem
    exact List.not_mem_nil hmem
  · rw [placesOf_succ_of_ne hlabel] at hmem
    exact zero_notMem_zip hmem

/-- A label that the pool does not hold leaves the places behind in step. -/
theorem twins_succ_of_forall_ne (hnone : ∀ x ∈ pool, references x ≠ students 0) :
    Twins students references pool i.succ j ↔
      Twins (fun i => students i.succ) references pool i j := by
  refine exists_congr fun label => ?_
  by_cases hlabel : students 0 = label
  · have hnil : placesOf references pool label = [] := placesOf_eq_nil (hlabel ▸ hnone)
    rw [hnil, List.zip_nil_right, List.zip_nil_right]
    exact iff_of_false List.not_mem_nil List.not_mem_nil
  · rw [placesOf_succ_of_ne hlabel]
    exact succ_mem_zip

section First

variable (hlabel : references j = students 0) (hfront : ∀ x ∈ front, references x ≠ students 0)

include hlabel hfront

/-- The first place of a label is that of the reference at hand, and the others come behind it. -/
theorem placesOf_first : placesOf references (front ++ j :: back) (students 0) =
    j :: placesOf references (front ++ back) (students 0) := by
  rw [← hlabel] at hfront ⊢
  exact placesOf_middle hfront

/-- The first place of the submission is the twin of the first place of its label in the pool. -/
theorem twins_zero_of_first :
    Twins students references (front ++ j :: back) 0 j' ↔ j' = j := by
  constructor
  · rintro ⟨label, hmem⟩
    by_cases heq : students 0 = label
    · rw [← heq, placesOf_first hlabel hfront, placesOf_succ, List.zip_cons_cons,
        List.mem_cons, or_iff_left zero_notMem_zip, Prod.mk.injEq] at hmem
      exact hmem.2
    · rw [placesOf_succ_of_ne heq] at hmem
      exact absurd hmem zero_notMem_zip
  · rintro rfl
    refine ⟨students 0, ?_⟩
    rw [placesOf_first hlabel hfront, placesOf_succ, List.zip_cons_cons]
    exact List.mem_cons_self

/-- Without the two first places of a label all others are in step as before. -/
theorem twins_succ_of_first :
    Twins students references (front ++ j :: back) i.succ j' ↔
      Twins (fun i => students i.succ) references (front ++ back) i j' := by
  refine exists_congr fun label => ?_
  by_cases heq : students 0 = label
  -- Both lists lose their first place, so the ranks behind it fall by one on both sides.
  · have hhead : (i.succ, j') ≠ (0, j) := fun h => Fin.succ_ne_zero i (Prod.mk.inj h).1
    rw [← heq, placesOf_first hlabel hfront, placesOf_succ, List.zip_cons_cons, List.mem_cons,
      or_iff_right hhead]
    exact succ_mem_zip
  · have hother : references j ≠ label := fun h => heq (hlabel.symm.trans h)
    rw [placesOf_succ_of_ne heq, placesOf_middle_of_ne hother]
    exact succ_mem_zip

end First

/-- An element whose label the pool does not hold goes in front without a partner. -/
theorem InStep.skip (ha : a.InStep (fun i => students i.succ) references pool)
    (hnone : ∀ x ∈ pool, references x ≠ students 0) : a.skip.InStep students references pool := by
  intro i j v
  cases i using Fin.cases with
  | zero => simp [not_twins_zero hnone]
  | succ i => rw [skip_succ, ha i j v, twins_succ_of_forall_ne hnone]

/-- An element goes in front with the first place of its label in the pool, where the others share
what is left of the pool. -/
theorem InStep.pairFirst (ha : a.InStep (fun i => students i.succ) references (front ++ back))
    (hlabel : references j = students 0) (hfront : ∀ x ∈ front, references x ≠ students 0)
    {hfree : ∀ i w, a.partner i ≠ some (j, w)} :
    (a.pairFirst j one hfree).InStep students references (front ++ j :: back) := by
  intro i j' v
  cases i using Fin.cases with
  | zero =>
    rw [pairFirst_zero, twins_zero_of_first hlabel hfront, Option.some_inj, Prod.mk.injEq, and_comm,
      eq_comm, @eq_comm _ j]
  | succ i => rw [pairFirst_succ, ha i j' v, twins_succ_of_first hlabel hfront]

end InStep

end Assignment

namespace Matcher

open Assignment

variable [ScoreNumber α] (m : Matcher α β)

/-- The name and the signature of the element at each place of a list. -/
def labelAt (xs : List β) (i : Fin xs.length) : Option String × Option String :=
  (m.view (xs.get i)).label

/-- What is picked out of a pool of places is the first place of the label, and nothing is picked
only where no place of the pool carries it. -/
theorem exactChoice_places (s : β) (rs : List β) (pool : List (Fin rs.length)) :
    (m.exactChoice s (pool.map rs.get) = none ∧
        ∀ x ∈ pool, m.labelAt rs x ≠ (m.view s).label) ∨
      ∃ front j back, pool = front ++ j :: back ∧ m.labelAt rs j = (m.view s).label ∧
        (∀ x ∈ front, m.labelAt rs x ≠ (m.view s).label) ∧
        m.exactChoice s (pool.map rs.get) = some (rs.get j, one, (front ++ back).map rs.get) := by
  -- The choice among the elements is the choice among their places.
  have hplaces := takeFirst_map rs.get (fun r => (m.view s).agrees (m.view r)) pool
  rcases hfirst : takeFirst (fun j => (m.view s).agrees (m.view (rs.get j))) pool with _ | ⟨j, left⟩
  · have hnone : m.exactChoice s (pool.map rs.get) = none := by rw [exactChoice, hplaces, hfirst]; rfl
    refine Or.inl ⟨hnone, fun x hx heq => ?_⟩
    exact Bool.eq_false_iff.1 (takeFirst_eq_none.1 hfirst x hx) (Element.agrees_iff_label.2 heq.symm)
  · obtain ⟨front, back, rfl, rfl, hagrees, hfront⟩ := takeFirst_split hfirst
    have hpicked : m.exactChoice s ((front ++ j :: back).map rs.get) =
        some (rs.get j, one, (front ++ back).map rs.get) := by rw [exactChoice, hplaces, hfirst]; rfl
    have hlabel : m.labelAt rs j = (m.view s).label := (Element.agrees_iff_label.1 hagrees).symm
    refine Or.inr ⟨front, j, back, rfl, hlabel, fun x hx heq => ?_, hpicked⟩
    exact Bool.eq_false_iff.1 (hfront x hx) (Element.agrees_iff_label.2 heq.symm)

/-- What the exact pass does with a pool of places is what some assignment in step says. -/
theorem exactPass_exists (ss rs : List β) (pool : List (Fin rs.length)) (hpool : pool.Nodup) :
    ∃ a : Assignment α ss.length rs.length,
      a.InStep (m.labelAt ss) (m.labelAt rs) pool ∧
        m.passWith m.exactChoice ss (pool.map rs.get) = a.result m ss.get rs.get pool := by
  -- By induction on the submission, for any pool: each element leaves a pool of its own.
  induction ss generalizing pool with
  | nil =>
    refine ⟨empty, fun i => i.elim0, ?_⟩
    simp [passWith, result, Alone]
  | cons s ss ih =>
    rcases m.exactChoice_places s rs pool with
      ⟨hc, hnone⟩ | ⟨front, j, back, rfl, hlabel, hfront, hc⟩
    · obtain ⟨a, ha, heq⟩ := ih pool hpool
      refine ⟨a.skip, ha.skip hnone, ?_⟩
      rw [passWith_cons_none hc, heq]
      exact (result_skip (s :: ss).get pool a).symm
    · obtain ⟨hnot, hrest⟩ := List.nodup_cons.1 (List.nodup_middle.1 hpool)
      obtain ⟨a, ha, heq⟩ := ih (front ++ back) hrest
      have hfree : ∀ i w, a.partner i ≠ some (j, w) := fun i w hi =>
        hnot ((ha i j w).1 hi).2.mem_pool
      refine ⟨a.pairFirst j one hfree, ha.pairFirst hlabel hfront, ?_⟩
      rw [passWith_cons_some hc, heq]
      exact (result_pairFirst (s :: ss).get hnot a hfree).symm

/-- The places at which a name and a signature stand in a list, in the order of the list. -/
def placesWith (xs : List β) (label : Option String × Option String) : List (Fin xs.length) :=
  placesOf (m.labelAt xs) (List.finRange xs.length) label

/-- The exact pass pairs the places of each name and signature in step: the first of the submission
with the first of the reference list, the second with the second, as far as both lists have one, and
nothing else. The pairs are full and without a difference. Pairs and what is left over come out in
the order of the lists, and no name and signature is left over on both sides. -/
theorem exactPass_inStep (students references : List β) :
    (∃ a : Assignment α students.length references.length,
      (∀ i j v, a.partner i = some (j, v) ↔ v = one ∧
        ∃ (label : Option String × Option String) (rank : Nat),
          (m.placesWith students label)[rank]? = some i ∧
            (m.placesWith references label)[rank]? = some j) ∧
        m.exactPass students references =
          a.result m students.get references.get (List.finRange references.length)) ∧
      (∀ p ∈ (m.exactPass students references).pairings,
        p.similarity = one ∧ p.differences = []) ∧
      ∀ s ∈ (m.exactPass students references).students,
        ∀ r ∈ (m.exactPass students references).references,
          (m.view s).label ≠ (m.view r).label := by
  obtain ⟨a, ha, heq⟩ := m.exactPass_exists students references (List.finRange references.length)
    (List.nodup_finRange _)
  rw [List.map_get_finRange, ← exactPass_eq] at heq
  refine ⟨⟨a, fun i j v => (ha i j v).trans (and_congr_right' twins_iff_rank), heq⟩, ?_, ?_⟩
  · intro p hp
    rw [exactPass_eq] at hp
    obtain ⟨hagrees, hsimilarity⟩ := mem_exactResult hp
    have hlabel : (m.view p.student).signature = (m.view p.reference).signature :=
      (Element.agrees_iff.1 hagrees).2
    have hdifferences : p.differences = explain α (some (m.view p.student).kind)
        (m.view p.student).signature (m.view p.reference).signature :=
      congrArg Pairing.differences (mem_passWith hp).2
    rw [hlabel, explain_self] at hdifferences
    exact ⟨hsimilarity, hdifferences⟩
  · intro s hs r hr hlabel
    rw [exactPass_eq] at hs hr
    exact passWith_maximal m.exactChoice_picks students references s hs r hr
      (Element.agrees_iff_label.2 hlabel)

/-- The first method stands twice in the submission and the second one, which looks the same, twice
in the reference list. They are paired in step around the longer one, and the last one is left over.
-/
example :
    let result := (samplePool.matcher 0.7).exactPass [0, 2, 0, 1] [1, 2, 1]
    result.pairings.map (fun p => (p.student, p.reference)) = [(0, 1), (2, 2), (0, 1)] ∧
      result.students = [1] ∧ result.references = [] := by
  decide

end Matcher

end StructureGrader
