import StructureGrader.Proofs.Matching.Conservation
import Mathlib.Data.List.FinRange

/-!
# The approximate pass as an assignment

What the approximate pass does is said here without running it. An `Assignment` pairs places of the
submission with places of the reference list, no reference place twice. It is greedy (`IsGreedy`)
when each element has the best reference of those that no earlier element has, the first of several,
with its score, and has none only where none of those reaches the threshold.

There is one greedy assignment and no other. Two of them agree at each place once they agree at all
earlier ones, for both then choose among the same references (`IsGreedy.unique`). The pass builds
one: an element that is left over (`skip`) or paired (`pairFirst`) goes in front of the greedy
assignment of the others, and the references are read off at the end (`approximatePass_exists`).
`approximatePass_greedy` puts the two together.
-/

namespace StructureGrader

open ScoreNumber ScoreOrder

variable {α β : Type} {n k : Nat}

/-- Which place of the reference list each place of the submission is paired with, if with any, and
the similarity that the pair is given; no place of the reference list is given twice. -/
@[ext]
structure Assignment (α : Type) (n k : Nat) where
  partner : Fin n → Option (Fin k × α)
  once : ∀ {i i' : Fin n} {j : Fin k} {v v' : α},
    partner i = some (j, v) → partner i' = some (j, v') → i = i'

namespace Assignment

/-- A reference has no partner. -/
def Alone (a : Assignment α n k) (j : Fin k) : Prop :=
  ∀ i, (a.partner i).map Prod.fst ≠ some j

instance (a : Assignment α n k) : DecidablePred a.Alone :=
  fun j => inferInstanceAs (Decidable (∀ i, (a.partner i).map Prod.fst ≠ some j))

/-- A reference ends alone, or with an element that stands behind `i`. -/
def LeftAfter (a : Assignment α n k) (i : Fin n) (j : Fin k) : Prop :=
  ∀ i' v, a.partner i' = some (j, v) → i < i'

/-- The pairing at each place is the best choice among the references of `pool` left after it, the
first of several, and no pairing is missed. -/
structure IsGreedy [ScoreNumber α] (score : Fin n → Fin k → α) (threshold : α) (pool : List (Fin k))
    (a : Assignment α n k) : Prop where
  inPool : ∀ {i j v}, a.partner i = some (j, v) → j ∈ pool
  scored : ∀ {i j v}, a.partner i = some (j, v) → v = score i j ∧ zero < v ∧ threshold ≤ v
  best : ∀ {i j v}, a.partner i = some (j, v) → ∀ j' ∈ pool, a.LeftAfter i j' →
    score i j' ≤ v ∧ (j' < j → score i j' < v)
  complete : ∀ {i}, a.partner i = none → ∀ j' ∈ pool, a.LeftAfter i j' →
    ¬ (zero < score i j' ∧ threshold ≤ score i j')

/-! ## There is one greedy assignment at most -/

section Unique

variable {a b : Assignment α n k} {i : Fin n} {j j' : Fin k} {v : α}

/-- What another assignment gives to `i` is left after `i`, where both agree before `i`. -/
theorem leftAfter_of_agree (hbefore : ∀ i' < i, a.partner i' = b.partner i')
    (hb : b.partner i = some (j, v)) (ha : ∀ w, a.partner i ≠ some (j, w)) : a.LeftAfter i j := by
  intro i' w hw
  by_contra hnot
  rcases (not_lt.1 hnot).lt_or_eq with hlt | rfl
  · rw [hbefore i' hlt] at hw
    exact hlt.ne (b.once hw hb)
  · exact ha w hw

variable [ScoreNumber α] {score : Fin n → Fin k → α} {threshold : α} {pool : List (Fin k)}

/-- Where two greedy assignments agree before `i`, the second pairs `i` if the first does. -/
theorem IsGreedy.exists_partner (ha : a.IsGreedy score threshold pool)
    (hb : b.IsGreedy score threshold pool) (hbefore : ∀ i' < i, a.partner i' = b.partner i')
    (hi : a.partner i = some (j, v)) : ∃ j' v', b.partner i = some (j', v') := by
  rcases hnone : b.partner i with _ | ⟨j', v'⟩
  · have hleft : b.LeftAfter i j :=
      leftAfter_of_agree (fun i' h => (hbefore i' h).symm) hi fun w hw => by simp [hnone] at hw
    obtain ⟨rfl, hpos, hreach⟩ := ha.scored hi
    exact absurd ⟨hpos, hreach⟩ (hb.complete hnone j (ha.inPool hi) hleft)
  · exact ⟨j', v', rfl⟩

variable [ScoreOrder α]

/-- Of two references, only one can be the first of the best. -/
theorem IsGreedy.partner_not_lt (ha : a.IsGreedy score threshold pool)
    (hb : b.IsGreedy score threshold pool) (hbefore : ∀ i' < i, a.partner i' = b.partner i')
    {v' : α} (hi : a.partner i = some (j, v)) (hi' : b.partner i = some (j', v')) :
    ¬ j' < j := by
  intro hlt
  have hleft' : a.LeftAfter i j' := leftAfter_of_agree hbefore hi' fun w hw => by
    rw [hi, Option.some_inj] at hw
    exact hlt.ne (congrArg Prod.fst hw).symm
  have hleft : b.LeftAfter i j :=
    leftAfter_of_agree (fun i' h => (hbefore i' h).symm) hi fun w hw => by
      rw [hi', Option.some_inj] at hw
      exact hlt.ne (congrArg Prod.fst hw)
  obtain ⟨rfl, -⟩ := ha.scored hi
  obtain ⟨rfl, -⟩ := hb.scored hi'
  have hbelow : score i j' < score i j := (ha.best hi j' (hb.inPool hi') hleft').2 hlt
  have hatMost : score i j ≤ score i j' := (hb.best hi' j (ha.inPool hi) hleft).1
  exact (lt_iff.1 hbelow).2 hatMost

/-- Two greedy assignments are one. -/
theorem IsGreedy.unique (ha : a.IsGreedy score threshold pool)
    (hb : b.IsGreedy score threshold pool) : a = b := by
  ext1
  funext i
  -- By induction on the place: the choice at a place depends on the places before it.
  induction i using WellFoundedLT.induction with
  | _ i ih =>
    have hbefore : ∀ i' < i, b.partner i' = a.partner i' := fun i' h => (ih i' h).symm
    rcases hi : a.partner i with _ | ⟨j, v⟩
    · rcases hi' : b.partner i with _ | ⟨j', v'⟩
      · rfl
      · obtain ⟨j, v, hj⟩ := hb.exists_partner ha hbefore hi'
        rw [hi] at hj
        exact nomatch hj
    · obtain ⟨j', v', hi'⟩ := ha.exists_partner hb ih hi
      have hle : j ≤ j' := not_lt.1 (ha.partner_not_lt hb ih hi hi')
      have hge : j' ≤ j := not_lt.1 (hb.partner_not_lt ha hbefore hi' hi)
      have heq : j = j' := le_antisymm hle hge
      rw [hi', heq, (hb.scored hi').1, (ha.scored hi).1, heq]

end Unique

/-! ## One element in front of an assignment -/

section Build

/-- No element, no pair. -/
def empty : Assignment α 0 k where
  partner i := i.elim0
  once {i} := i.elim0

/-- The assignment with one more element in front that has no partner. -/
def skip (a : Assignment α n k) : Assignment α (n + 1) k where
  partner := Fin.cases none a.partner
  once {i i' j v v'} hi hi' := by
    cases i using Fin.cases with
    | zero => exact nomatch hi
    | succ i =>
      cases i' using Fin.cases with
      | zero => exact nomatch hi'
      | succ i' => exact congrArg Fin.succ (a.once hi hi')

/-- The assignment with one more element in front that has a partner of its own. -/
def pairFirst (a : Assignment α n k) (j : Fin k) (v : α)
    (hfree : ∀ i w, a.partner i ≠ some (j, w)) : Assignment α (n + 1) k where
  partner := Fin.cases (some (j, v)) a.partner
  once {i i' j' w w'} hi hi' := by
    cases i using Fin.cases with
    | zero =>
      obtain ⟨rfl, rfl⟩ := Prod.mk.inj (Option.some.inj hi)
      cases i' using Fin.cases with
      | zero => rfl
      | succ i' => exact absurd hi' (hfree i' w')
    | succ i =>
      cases i' using Fin.cases with
      | zero =>
        obtain ⟨rfl, rfl⟩ := Prod.mk.inj (Option.some.inj hi')
        exact absurd hi (hfree i w)
      | succ i' => exact congrArg Fin.succ (a.once hi hi')

variable {a : Assignment α n k} {i : Fin n} {j j' : Fin k} {v : α}
  {hfree : ∀ i w, a.partner i ≠ some (j, w)}

/-- A student in front that is skipped has no partner. -/
@[simp] theorem skip_zero : a.skip.partner 0 = none := rfl

/-- Behind a skipped student everyone keeps the partner. -/
@[simp] theorem skip_succ : a.skip.partner i.succ = a.partner i := rfl

/-- A student that is paired first has the partner it was given. -/
@[simp] theorem pairFirst_zero : (a.pairFirst j v hfree).partner 0 = some (j, v) := rfl

/-- Behind a student that was paired first everyone keeps the partner. -/
@[simp] theorem pairFirst_succ : (a.pairFirst j v hfree).partner i.succ = a.partner i := rfl

/-- Skipping a student leaves the same references alone. -/
theorem alone_skip : a.skip.Alone j ↔ a.Alone j := by
  simp [Alone, Fin.forall_fin_succ]

/-- Pairing a student with a reference leaves the other references alone as they were. -/
theorem alone_pairFirst : (a.pairFirst j v hfree).Alone j' ↔ a.Alone j' ∧ j' ≠ j := by
  simp [Alone, Fin.forall_fin_succ, eq_comm, and_comm]

/-- What is left after a student is left, one place on, where a student is skipped in front. -/
theorem leftAfter_of_skip (h : a.skip.LeftAfter i.succ j') : a.LeftAfter i j' := by
  intro i' w hw
  exact Fin.succ_lt_succ_iff.1 (h i'.succ w hw)

/-- What is left after a student is left, one place on, where another reference is paired in front.
-/
theorem leftAfter_of_pairFirst (h : (a.pairFirst j v hfree).LeftAfter i.succ j') :
    j' ≠ j ∧ a.LeftAfter i j' := by
  constructor
  · rintro rfl
    exact absurd (h 0 v rfl) (Fin.not_lt_zero _)
  · intro i' w hw
    exact Fin.succ_lt_succ_iff.1 (h i'.succ w hw)

variable [ScoreNumber α] {score : Fin (n + 1) → Fin k → α} {threshold : α}
  {pool front back : List (Fin k)}

/-- An element for which nothing reaches the threshold goes in front without a partner. -/
theorem IsGreedy.skip (ha : a.IsGreedy (fun i => score i.succ) threshold pool)
    (hnone : ∀ j' ∈ pool, ¬ (zero < score 0 j' ∧ threshold ≤ score 0 j')) :
    a.skip.IsGreedy score threshold pool where
  inPool {i _ _} hi := by
    cases i using Fin.cases with
    | zero => exact nomatch hi
    | succ i => exact ha.inPool hi
  scored {i _ _} hi := by
    cases i using Fin.cases with
    | zero => exact nomatch hi
    | succ i => exact ha.scored hi
  best {i _ _} hi j' hj' hleft := by
    cases i using Fin.cases with
    | zero => exact nomatch hi
    | succ i => exact ha.best hi j' hj' (leftAfter_of_skip hleft)
  complete {i} hi j' hj' hleft := by
    cases i using Fin.cases with
    | zero => exact hnone j' hj'
    | succ i => exact ha.complete hi j' hj' (leftAfter_of_skip hleft)

/-- An element goes in front with the first of its best references, where the others share what is
left of the pool. -/
theorem IsGreedy.pairFirst [ScoreOrder α]
    (ha : a.IsGreedy (fun i => score i.succ) threshold (front ++ back))
    (hv : v = score 0 j) (hpos : zero < v) (hreach : threshold ≤ v)
    (hfront : ∀ j' ∈ front, score 0 j' < v)
    (hback : ∀ j' ∈ back, j < j' ∧ score 0 j' ≤ v) :
    (a.pairFirst j v hfree).IsGreedy score threshold (front ++ j :: back) where
  inPool {i _ _} hi := by
    cases i using Fin.cases with
    | zero =>
      obtain ⟨rfl, -⟩ := Prod.mk.inj (Option.some.inj hi)
      simp
    | succ i => exact (List.sublist_cons_self j back).append_left front |>.subset (ha.inPool hi)
  scored {i _ _} hi := by
    cases i using Fin.cases with
    | zero =>
      obtain ⟨rfl, rfl⟩ := Prod.mk.inj (Option.some.inj hi)
      exact ⟨hv, hpos, hreach⟩
    | succ i => exact ha.scored hi
  best {i _ _} hi j' hj' hleft := by
    cases i using Fin.cases with
    | zero =>
      obtain ⟨rfl, rfl⟩ := Prod.mk.inj (Option.some.inj hi)
      rcases List.mem_append.1 hj' with hj' | hj'
      · exact ⟨ScoreOrder.le_of_lt (hfront j' hj'), fun _ => hfront j' hj'⟩
      · rcases List.mem_cons.1 hj' with rfl | hj'
        · exact ⟨hv ▸ (le_self hreach).2, fun hlt => hlt.false.elim⟩
        · exact ⟨(hback j' hj').2, fun hlt => absurd hlt (hback j' hj').1.not_gt⟩
    | succ i =>
      obtain ⟨hne, hleft⟩ := leftAfter_of_pairFirst hleft
      have hmem : j' ∈ front ++ back := by simpa [hne] using hj'
      exact ha.best hi j' hmem hleft
  complete {i} hi j' hj' hleft := by
    cases i using Fin.cases with
    | zero => exact nomatch hi
    | succ i =>
      obtain ⟨hne, hleft⟩ := leftAfter_of_pairFirst hleft
      have hmem : j' ∈ front ++ back := by simpa [hne] using hj'
      exact ha.complete hi j' hmem hleft

end Build

/-! ## The pass -/

section Pass

variable [ScoreNumber α]

/-- The result that an assignment describes: pairings and elements left over in the order of the
submission, references left over in the order of the pool. -/
def result (m : Matcher α β) (student : Fin n → β) (reference : Fin k → β) (pool : List (Fin k))
    (a : Assignment α n k) : PassResult α β where
  pairings := (List.finRange n).filterMap fun i =>
    (a.partner i).map fun (j, v) => m.pair (student i) (reference j) v
  students := ((List.finRange n).filter fun i => (a.partner i).isNone).map student
  references := (pool.filter fun j => a.Alone j).map reference

variable {m : Matcher α β} (student : Fin (n + 1) → β) {reference : Fin k → β}

/-- With a student skipped in front, the result is that of the others with this student left over.
-/
theorem result_skip (pool : List (Fin k)) (a : Assignment α n k) :
    a.skip.result m student reference pool =
      (a.result m (fun i => student i.succ) reference pool).leaveFirst (student 0) := by
  simp only [result, PassResult.leaveFirst, List.finRange_succ, List.filterMap_cons,
    List.filter_cons, List.filterMap_map, List.filter_map, Function.comp_def, skip_zero, skip_succ,
    alone_skip, Option.map_none, Option.isNone_none, if_true, List.map_cons, List.map_map]

/-- With a student paired in front, the result is that of the others, without the reference taken,
and this pair in front. -/
theorem result_pairFirst {front back : List (Fin k)} {j : Fin k} {v : α}
    (hnot : j ∉ front ++ back) (a : Assignment α n k)
    (hfree : ∀ i w, a.partner i ≠ some (j, w)) :
    (a.pairFirst j v hfree).result m student reference (front ++ j :: back) =
      (a.result m (fun i => student i.succ) reference (front ++ back)).pairFirst
        (m.pair (student 0) (reference j) v) := by
  have hsame : ∀ x ∈ front ++ back, decide (a.Alone x ∧ x ≠ j) = decide (a.Alone x) := by
    intro x hx
    have hne : x ≠ j := fun heq => hnot (heq ▸ hx)
    simp [hne]
  have hpool : (front ++ j :: back).filter (fun x => a.Alone x ∧ x ≠ j) =
      (front ++ back).filter fun x => a.Alone x := by
    rw [← List.filter_congr hsame]
    simp [List.filter_append]
  simp only [result, PassResult.pairFirst, List.finRange_succ, List.filterMap_cons,
    List.filter_cons, List.filterMap_map, List.filter_map, Function.comp_def, pairFirst_zero,
    pairFirst_succ, alone_pairFirst, hpool, Option.map_some, Option.isNone_some]
  simp

end Pass

end Assignment

namespace Matcher

open Assignment

variable [ScoreNumber α] [ScoreOrder α]

/-- The score of the elements at two places. -/
def scoreAt (m : Matcher α β) (ss rs : List β) (i : Fin ss.length) (j : Fin rs.length) : α :=
  m.score (m.view (ss.get i)) (m.view (rs.get j))

/-- What is picked out of a pool of places is the first of the best, and reaches the threshold. -/
theorem bestChoice_places {m : Matcher α β} {s r : β} {rs rest : List β} {v : α}
    {pool : List (Fin rs.length)}
    (hself : ∀ r ∈ rs, m.score (m.view s) (m.view r) ≤ m.score (m.view s) (m.view r))
    (h : m.bestChoice s (pool.map rs.get) = some (r, v, rest)) :
    ∃ front j back, pool = front ++ j :: back ∧ r = rs.get j ∧ rest = (front ++ back).map rs.get ∧
      v = m.score (m.view s) (m.view (rs.get j)) ∧ zero < v ∧ m.threshold ≤ v ∧
      (∀ x ∈ front, m.score (m.view s) (m.view (rs.get x)) < v) ∧
      ∀ x ∈ back, m.score (m.view s) (m.view (rs.get x)) ≤ v := by
  obtain ⟨hbest, hreach⟩ := Option.filter_eq_some_iff.1 h
  have hpos : zero < v := takeBest_bar_lt hbest
  -- The choice among the elements is the choice among their places.
  have hplaces := takeBest_map (f := rs.get) (g := id) (fun _ _ => Iff.rfl)
    (fun r => m.score (m.view s) (m.view r)) (fun _ => rfl) (zero : α) pool
  rw [id_eq, hbest] at hplaces
  obtain ⟨⟨j, w, left⟩, hj, heq⟩ := Option.map_eq_some_iff.1 hplaces.symm
  obtain ⟨rfl, rfl, rfl⟩ : rs.get j = r ∧ w = v ∧ left.map rs.get = rest := by simpa using heq
  obtain ⟨front, back, rfl, rfl, hv, hfront, hback⟩ :=
    takeBest_first (fun x _ => hself _ (List.get_mem rs x)) hj
  exact ⟨front, j, back, rfl, rfl, rfl, hv, hpos, of_decide_eq_true hreach, hfront, hback⟩

/-- What the approximate pass does with a pool of places is what some greedy assignment says. -/
theorem approximatePass_exists (m : Matcher α β) (ss rs : List β)
    (hself : ∀ s ∈ ss, ∀ r ∈ rs,
      m.score (m.view s) (m.view r) ≤ m.score (m.view s) (m.view r))
    (pool : List (Fin rs.length)) (hpool : pool.Pairwise (· < ·)) :
    ∃ a : Assignment α ss.length rs.length,
      a.IsGreedy (m.scoreAt ss rs) m.threshold pool ∧
        m.passWith m.bestChoice ss (pool.map rs.get) = a.result m ss.get rs.get pool := by
  -- By induction on the submission, for any pool: each element leaves a pool of its own.
  induction ss generalizing pool with
  | nil =>
    refine ⟨empty, ⟨fun {i} => i.elim0, fun {i} => i.elim0, fun {i} => i.elim0,
      fun {i} => i.elim0⟩, ?_⟩
    simp [passWith, result, Alone]
  | cons s ss ih =>
    obtain ⟨hs, hss⟩ := List.forall_mem_cons.1 hself
    rcases hc : m.bestChoice s (pool.map rs.get) with _ | ⟨r, v, rest⟩
    · obtain ⟨a, ha, heq⟩ := ih hss pool hpool
      refine ⟨a.skip, IsGreedy.skip ha fun j hj => ?_, ?_⟩
      · exact m.bestChoice_picks.complete hc (rs.get j) (List.mem_map_of_mem hj)
      · rw [passWith_cons_none hc, heq]
        exact (result_skip (s :: ss).get pool a).symm
    · obtain ⟨front, j, back, rfl, rfl, rfl, hv, hpos, hreach, hfront, hback⟩ :=
        bestChoice_places hs hc
      obtain ⟨-, htail, hcross⟩ := List.pairwise_append.1 hpool
      have hbehind : ∀ x ∈ back, j < x := (List.pairwise_cons.1 htail).1
      have hnot : j ∉ front ++ back := by
        intro hj
        rcases List.mem_append.1 hj with hj | hj
        · exact (hcross j hj j List.mem_cons_self).false
        · exact (hbehind j hj).false
      have hrest : (front ++ back).Pairwise (· < ·) :=
        hpool.sublist ((List.sublist_cons_self j back).append_left front)
      obtain ⟨a, ha, heq⟩ := ih hss (front ++ back) hrest
      have hfree : ∀ i w, a.partner i ≠ some (j, w) := fun i w hi => hnot (ha.inPool hi)
      have hlater : ∀ x ∈ back, j < x ∧ m.scoreAt (s :: ss) rs 0 x ≤ v := fun x hx =>
        ⟨hbehind x hx, hback x hx⟩
      refine ⟨a.pairFirst j v hfree, IsGreedy.pairFirst ha hv hpos hreach hfront hlater, ?_⟩
      rw [passWith_cons_some hc, heq]
      exact (result_pairFirst (s :: ss).get hnot a hfree).symm

/-- The approximate pass carries out the one greedy assignment of the places of one list to the
places of the other, whatever the scores, as long as each is comparable with itself, as all doubles
are that are numbers. -/
theorem approximatePass_greedy (m : Matcher α β) (students references : List β)
    (hself : ∀ s ∈ students, ∀ r ∈ references,
      m.score (m.view s) (m.view r) ≤ m.score (m.view s) (m.view r)) :
    ∃ a : Assignment α students.length references.length,
      a.IsGreedy (m.scoreAt students references) m.threshold (List.finRange references.length) ∧
        m.approximatePass students references =
          a.result m students.get references.get (List.finRange references.length) ∧
        ∀ b : Assignment α students.length references.length,
          b.IsGreedy (m.scoreAt students references) m.threshold
            (List.finRange references.length) → b = a := by
  obtain ⟨a, ha, heq⟩ := m.approximatePass_exists students references hself
    (List.finRange references.length) (List.pairwise_lt_finRange _)
  rw [List.map_get_finRange, ← approximatePass_eq] at heq
  exact ⟨a, ha, heq, fun b hb => hb.unique ha⟩

/-- The method that stands first takes its equal, which stands second among the references; the one
that stands second takes what is left. -/
theorem approximatePass_greedy_samplePool :
    let m := samplePool.matcher 0.7
    let pairs := (m.approximatePass [0, 2, 4] [3, 1]).pairings.map fun p => (p.student, p.reference)
    pairs = [(0, 1), (2, 3)] ∧
      ∃ a : Assignment Float 3 2,
        a.IsGreedy (m.scoreAt [0, 2, 4] [3, 1]) m.threshold (List.finRange 2) ∧
          m.approximatePass [0, 2, 4] [3, 1] =
            a.result m [0, 2, 4].get [3, 1].get (List.finRange 2) ∧
          ∀ b : Assignment Float 3 2,
            b.IsGreedy (m.scoreAt [0, 2, 4] [3, 1]) m.threshold (List.finRange 2) → b = a :=
  ⟨by decide +kernel, approximatePass_greedy (samplePool.matcher 0.7) [0, 2, 4] [3, 1]
    (by decide +kernel)⟩

end Matcher

end StructureGrader
