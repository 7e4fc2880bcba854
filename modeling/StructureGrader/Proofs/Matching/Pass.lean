import StructureGrader.Proofs.Matching.Choice
import Mathlib.Data.List.Perm.Basic

/-!
# Passes

The exact and the approximate pass differ only in how they pick a partner out of the references
that are left. `Matcher.passWith` is a pass with any such choice, and both passes are of this form
(`exactPass_eq`, `approximatePass_eq`). What a pass does follows from three properties of its
choice: it removes what it picks and nothing else (`Removes`), it picks something acceptable
whenever there is something acceptable (`Picks`), and what it picks from a pool another choice
picks from every part of the pool in which it is left (`Follows`).

From the first, a pass neither loses nor doubles an element on either side
(`passWith_students_perm`, `passWith_references_perm`); from the second, it leaves no acceptable
pair (`passWith_maximal`).
-/

namespace StructureGrader

open ScoreNumber ScoreOrder

variable {α β : Type}

/-- How a pass picks a partner out of the references left: the one picked, the similarity, and all
others. -/
abbrev Choice (α β : Type) := β → List β → Option (β × α × List β)

namespace Choice

/-- The choice takes one reference out at its place and keeps all others in order. -/
def Removes (choice : Choice α β) : Prop :=
  ∀ ⦃s rs r v rest⦄, choice s rs = some (r, v, rest) →
    ∃ front back, rs = front ++ r :: back ∧ rest = front ++ back

/-- The choice removes an acceptable reference whenever there is one. -/
structure Picks (choice : Choice α β) (accepts : β → β → Prop) : Prop where
  removes : choice.Removes
  accepted : ∀ ⦃s rs r v rest⦄, choice s rs = some (r, v, rest) → accepts s r
  complete : ∀ ⦃s rs⦄, choice s rs = none → ∀ r ∈ rs, ¬ accepts s r

/-- What the choice `strict` picks from a pool, the choice `loose` picks from every part of the pool
in which it is left. -/
def Follows (loose strict : Choice α β) : Prop :=
  ∀ ⦃s xs ys r v rest⦄, xs.Sublist ys → strict s ys = some (r, v, rest) →
    xs.Sublist rest ∨ ∃ left, loose s xs = some (r, v, left) ∧ left.Sublist rest

variable {choice : Choice α β} {accepts : β → β → Prop} {s r : β} {v : α} {xs rs rest : List β}

/-- A choice that removes what it takes leaves the other candidates. -/
theorem Removes.perm (h : choice.Removes) (hc : choice s rs = some (r, v, rest)) :
    rs.Perm (r :: rest) := by
  obtain ⟨front, back, rfl, rfl⟩ := h hc
  exact List.perm_middle

/-- A choice that removes what it takes leaves the other candidates in order. -/
theorem Removes.sublist (h : choice.Removes) (hc : choice s rs = some (r, v, rest)) :
    rest.Sublist rs := by
  obtain ⟨front, back, rfl, rfl⟩ := h hc
  exact (List.Sublist.refl front).append (List.sublist_cons_self r back)

/-- A choice that removes what it takes leaves one candidate fewer. -/
theorem Removes.length (h : choice.Removes) (hc : choice s rs = some (r, v, rest)) :
    rs.length = rest.length + 1 :=
  (h.perm hc).length_eq

/-- Where there is nothing to pick, there is nothing in any part either. -/
theorem Picks.none_of_sublist (h : choice.Picks accepts) (hsub : xs.Sublist rs)
    (hc : choice s rs = none) : choice s xs = none := by
  rcases hx : choice s xs with _ | ⟨r, v, rest⟩
  · rfl
  · have hmem : r ∈ xs := (h.removes.perm hx).mem_iff.2 List.mem_cons_self
    exact absurd (h.accepted hx) (h.complete hc r (hsub.subset hmem))

end Choice

namespace PassResult

variable (result : PassResult α β) (p : Pairing α β) (s : β)

/-- The pair put in front comes first among the pairings. -/
@[simp] theorem pairFirst_pairings : (result.pairFirst p).pairings = p :: result.pairings := rfl

/-- A pair put in front leaves the students left over as they are. -/
@[simp] theorem pairFirst_students : (result.pairFirst p).students = result.students := rfl

/-- A pair put in front leaves the references left over as they are. -/
@[simp] theorem pairFirst_references : (result.pairFirst p).references = result.references := rfl

/-- A student left over adds no pairing. -/
@[simp] theorem leaveFirst_pairings : (result.leaveFirst s).pairings = result.pairings := rfl

/-- A student left over comes first among those left over. -/
@[simp] theorem leaveFirst_students : (result.leaveFirst s).students = s :: result.students := rfl

/-- A student left over leaves the references left over as they are. -/
@[simp] theorem leaveFirst_references : (result.leaveFirst s).references = result.references := rfl

end PassResult

/-- Two elements agree where their names and their signatures are equal. -/
theorem Element.agrees_iff {a b : Element} :
    a.agrees b = true ↔ a.name = b.name ∧ a.signature = b.signature := by
  rw [agrees, Bool.and_eq_true, beq_iff_eq, beq_iff_eq, and_comm]

namespace Matcher

variable [ScoreNumber α]

/-- The pass that pairs each element of the submission in turn with what a choice picks for it. -/
def passWith (m : Matcher α β) (choice : Choice α β) : List β → List β → PassResult α β
  | [], references => ⟨[], [], references⟩
  | s :: ss, references =>
    match choice s references with
    | some (r, v, rest) => (m.passWith choice ss rest).pairFirst (m.pair s r v)
    | none => (m.passWith choice ss references).leaveFirst s

/-- The first reference of the same name and signature, with full similarity. -/
def exactChoice (m : Matcher α β) : Choice α β := fun s references =>
  (takeFirst (fun r => (m.view s).agrees (m.view r)) references).map fun (r, rest) =>
    (r, one, rest)

/-- The best-scoring reference, where its score is positive and reaches the threshold. -/
def bestChoice (m : Matcher α β) : Choice α β := fun s references =>
  (takeBest (fun r => m.score (m.view s) (m.view r)) zero references).filter fun x =>
    decide (m.threshold ≤ x.2.1)

/-! ## The two passes of the matcher -/

section Passes

variable (m : Matcher α β)

/-- The exact pass is the pass with the exact choice. -/
theorem exactPass_eq (ss rs : List β) : m.exactPass ss rs = m.passWith m.exactChoice ss rs := by
  induction ss generalizing rs with
  | nil => rfl
  | cons s ss ih =>
    rw [exactPass, passWith, exactChoice]
    rcases takeFirst (fun r => (m.view s).agrees (m.view r)) rs with _ | ⟨r, rest⟩ <;>
      simp only [Option.map_none, Option.map_some, ih]

/-- The pass for the best scores is the pass with the best choice. -/
theorem approximatePass_eq (ss rs : List β) :
    m.approximatePass ss rs = m.passWith m.bestChoice ss rs := by
  induction ss generalizing rs with
  | nil => rfl
  | cons s ss ih =>
    rw [approximatePass, passWith, bestChoice]
    rcases takeBest (fun r => m.score (m.view s) (m.view r)) zero rs with _ | ⟨r, v, rest⟩
    · simp only [Option.filter_none, ih]
    · by_cases hv : m.threshold ≤ v <;> simp [Option.filter_some, hv, ih]

/-- The exact pass removes what it picks. -/
theorem exactChoice_removes : m.exactChoice.Removes := by
  intro s rs r v rest h
  obtain ⟨⟨x, left⟩, hx, heq⟩ := Option.map_eq_some_iff.1 h
  obtain ⟨front, back, hrs, hleft, -⟩ := takeFirst_split hx
  cases heq
  exact ⟨front, back, hrs, hleft⟩

/-- The exact pass accepts equal names and signatures. -/
theorem exactChoice_picks :
    m.exactChoice.Picks fun s r => (m.view s).agrees (m.view r) = true where
  removes := m.exactChoice_removes
  accepted := by
    intro s rs r v rest h
    obtain ⟨⟨x, left⟩, hx, heq⟩ := Option.map_eq_some_iff.1 h
    obtain ⟨front, back, -, -, hagrees, -⟩ := takeFirst_split hx
    cases heq
    exact hagrees
  complete := by
    intro s rs h r hr
    have hnone := takeFirst_eq_none.1 (Option.map_eq_none_iff.1 h) r hr
    simp [hnone]

/-- The exact choice follows itself. -/
theorem exactChoice_follows : m.exactChoice.Follows m.exactChoice := by
  intro s xs ys r v rest hsub h
  obtain ⟨⟨x, left⟩, hx, heq⟩ := Option.map_eq_some_iff.1 h
  cases heq
  rcases takeFirst_sublist hsub hx with hrest | ⟨left', hleft', hsub'⟩
  · exact Or.inl hrest
  · refine Or.inr ⟨left', ?_, hsub'⟩
    rw [exactChoice, hleft', Option.map_some]

/-- A pass looks at the threshold in its choice alone. -/
theorem passWith_threshold (choice : Choice α β) (threshold : α) (ss rs : List β) :
    ({ m with threshold := threshold } : Matcher α β).passWith choice ss rs =
      m.passWith choice ss rs := by
  induction ss generalizing rs with
  | nil => rfl
  | cons s ss ih => simp only [passWith, pair, ih]

/-- The approximate pass removes what it picks. -/
theorem bestChoice_removes : m.bestChoice.Removes := by
  intro s rs r v rest h
  obtain ⟨hx, -⟩ := Option.filter_eq_some_iff.1 h
  obtain ⟨front, back, hrs, hrest, -⟩ := takeBest_split hx
  exact ⟨front, back, hrs, hrest⟩

/-- The score of a pair is positive and reaches the threshold. -/
def Reaches (m : Matcher α β) (s r : β) : Prop :=
  zero < m.score (m.view s) (m.view r) ∧ m.threshold ≤ m.score (m.view s) (m.view r)

variable [ScoreOrder α]

/-- The approximate pass accepts positive scores from the threshold on. -/
theorem bestChoice_picks : m.bestChoice.Picks m.Reaches where
  removes := m.bestChoice_removes
  accepted := by
    intro s rs r v rest h
    obtain ⟨hx, hv⟩ := Option.filter_eq_some_iff.1 h
    obtain ⟨-, -, -, -, rfl⟩ := takeBest_split hx
    exact ⟨takeBest_bar_lt hx, of_decide_eq_true hv⟩
  complete := by
    rintro s rs h r hr ⟨hpos, hreach⟩
    rcases hx : takeBest (fun r => m.score (m.view s) (m.view r)) zero rs with _ | ⟨x, v, rest⟩
    · exact takeBest_eq_none.1 hx r hr hpos
    -- The best score is at least that of `r`, so it reaches the threshold, too.
    · have hle : m.score (m.view s) (m.view r) ≤ v :=
        le_of_not_lt (le_self (le_of_lt (takeBest_bar_lt hx))).2 (le_self hreach).2
          (takeBest_max hx r hr)
      have hv : m.threshold ≤ v := ScoreOrder.le_trans hreach hle
      simp [bestChoice, hx, Option.filter_some, hv] at h

/-- Under a lower threshold the approximate pass picks whatever it picks under a higher one. -/
theorem bestChoice_follows (low high : α) (hle : ∀ v, high ≤ v → low ≤ v) :
    ({ m with threshold := low } : Matcher α β).bestChoice.Follows
      ({ m with threshold := high } : Matcher α β).bestChoice := by
  intro s xs ys r v rest hsub h
  obtain ⟨hx, hv⟩ := Option.filter_eq_some_iff.1 h
  have hlow : low ≤ v := hle v (of_decide_eq_true hv)
  rcases takeBest_sublist hsub hx with hrest | ⟨left, hleft, hsub'⟩
  · exact Or.inl hrest
  · refine Or.inr ⟨left, ?_, hsub'⟩
    rw [bestChoice, hleft, Option.filter_some, if_pos (decide_eq_true hlow)]

end Passes

/-! ## What a pass keeps -/

section Keeps

open PassResult

variable {m : Matcher α β} {choice : Choice α β} {accepts : β → β → Prop} {s r : β} {v : α}
  {ss rs rest : List β}

/-- A student for whom the choice takes a reference is paired with it, and the pass goes on with the
other references. -/
theorem passWith_cons_some (h : choice s rs = some (r, v, rest)) :
    m.passWith choice (s :: ss) rs = (m.passWith choice ss rest).pairFirst (m.pair s r v) := by
  rw [passWith, h]

/-- A student for whom the choice takes nothing is left over, and the pass goes on with all references.
-/
theorem passWith_cons_none (h : choice s rs = none) :
    m.passWith choice (s :: ss) rs = (m.passWith choice ss rs).leaveFirst s := by
  rw [passWith, h]

/-- A pass pairs or leaves over each element of the submission, once each time it stands there. -/
theorem passWith_students_perm (ss rs : List β) :
    ((m.passWith choice ss rs).pairings.map Pairing.student ++
      (m.passWith choice ss rs).students).Perm ss := by
  -- By induction on the elements of the submission, for any pool: each leaves a pool of its own.
  induction ss generalizing rs with
  | nil => exact List.Perm.refl []
  | cons s ss ih =>
    rcases hc : choice s rs with _ | ⟨r, v, rest⟩
    · rw [passWith_cons_none hc, leaveFirst_pairings, leaveFirst_students]
      exact List.perm_middle.trans ((ih rs).cons s)
    · rw [passWith_cons_some hc, pairFirst_pairings, pairFirst_students, List.map_cons]
      exact (ih rest).cons s

/-- A pass pairs or leaves over each reference, once each time it stands there. -/
theorem passWith_references_perm (hc : choice.Removes) (ss rs : List β) :
    ((m.passWith choice ss rs).pairings.map Pairing.reference ++
      (m.passWith choice ss rs).references).Perm rs := by
  induction ss generalizing rs with
  | nil => exact List.Perm.refl rs
  | cons s ss ih =>
    rcases hs : choice s rs with _ | ⟨r, v, rest⟩
    · rw [passWith_cons_none hs, leaveFirst_pairings, leaveFirst_references]
      exact ih rs
    · rw [passWith_cons_some hs, pairFirst_pairings, pairFirst_references, List.map_cons]
      exact ((ih rest).cons r).trans (hc.perm hs).symm

/-- The students a pass leaves over are some of those there were, in order. -/
theorem passWith_students_sublist (ss rs : List β) :
    (m.passWith choice ss rs).students.Sublist ss := by
  induction ss generalizing rs with
  | nil => exact List.Sublist.refl []
  | cons s ss ih =>
    rcases hs : choice s rs with _ | ⟨r, v, rest⟩
    · rw [passWith_cons_none hs, leaveFirst_students]
      exact (ih rs).cons_cons s
    · rw [passWith_cons_some hs, pairFirst_students]
      exact (ih rest).cons s

/-- What the first element leaves is a smaller pool for the others. -/
theorem passWith_references_cons (hc : choice.Removes) (s : β) (ss rs : List β) :
    ∃ left, left.Sublist rs ∧
      (m.passWith choice (s :: ss) rs).references = (m.passWith choice ss left).references := by
  rcases hs : choice s rs with _ | ⟨r, v, rest⟩
  · exact ⟨rs, List.Sublist.refl rs, by rw [passWith_cons_none hs, leaveFirst_references]⟩
  · exact ⟨rest, hc.sublist hs, by rw [passWith_cons_some hs, pairFirst_references]⟩

/-- The references a pass leaves over are some of those there were, in order. -/
theorem passWith_references_sublist (hc : choice.Removes) (ss rs : List β) :
    (m.passWith choice ss rs).references.Sublist rs := by
  induction ss generalizing rs with
  | nil => exact List.Sublist.refl rs
  | cons s ss ih =>
    obtain ⟨left, hleft, heq⟩ := passWith_references_cons (m := m) hc s ss rs
    rw [heq]
    exact (ih left).trans hleft

/-- Each pair of a pass was picked by its choice, out of the pool that was left then. -/
theorem mem_passWith {ss rs : List β} {p : Pairing α β}
    (hp : p ∈ (m.passWith choice ss rs).pairings) :
    (∃ pool rest, choice p.student pool = some (p.reference, p.similarity, rest)) ∧
      p = m.pair p.student p.reference p.similarity := by
  induction ss generalizing rs with
  | nil => simp [passWith] at hp
  | cons s ss ih =>
    rcases hs : choice s rs with _ | ⟨r, v, rest⟩
    · rw [passWith_cons_none hs, leaveFirst_pairings] at hp
      exact ih hp
    · rw [passWith_cons_some hs, pairFirst_pairings, List.mem_cons] at hp
      rcases hp with rfl | hp
      · exact ⟨⟨rs, rest, hs⟩, rfl⟩
      · exact ih hp

/-- A pass pairs only what its choice accepts. -/
theorem passWith_accepted (hc : choice.Picks accepts) (ss rs : List β) :
    ∀ p ∈ (m.passWith choice ss rs).pairings, accepts p.student p.reference := by
  induction ss generalizing rs with
  | nil => simp [passWith]
  | cons s ss ih =>
    rcases hs : choice s rs with _ | ⟨r, v, rest⟩
    · rw [passWith_cons_none hs, leaveFirst_pairings]
      exact ih rs
    · rw [passWith_cons_some hs, pairFirst_pairings]
      exact List.forall_mem_cons.2 ⟨hc.accepted hs, ih rest⟩

/-- A pass leaves no acceptable pair: what an element misses in the pool of its turn is all that it
could be paired with in the end, for the pool only shrinks. -/
theorem passWith_maximal (hc : choice.Picks accepts) (ss rs : List β) :
    ∀ x ∈ (m.passWith choice ss rs).students, ∀ y ∈ (m.passWith choice ss rs).references,
      ¬ accepts x y := by
  induction ss generalizing rs with
  | nil => simp [passWith]
  | cons s ss ih =>
    rcases hs : choice s rs with _ | ⟨r, v, rest⟩
    · rw [passWith_cons_none hs, leaveFirst_students, leaveFirst_references]
      refine List.forall_mem_cons.2 ⟨fun y hy => ?_, ih rs⟩
      have hrs : y ∈ rs := (passWith_references_sublist hc.removes ss rs).subset hy
      exact hc.complete hs y hrs
    · rw [passWith_cons_some hs, pairFirst_students, pairFirst_references]
      exact ih rest

end Keeps

/-! ## Other names and other numbers -/

/-- Where a choice picks the same under other names and with other numbers, its pass pairs the same
and leaves over the same. -/
theorem passWith_map {γ δ : Type} [ScoreNumber δ] {m : Matcher α β} {m' : Matcher δ γ}
    {choice : Choice α β} {choice' : Choice δ γ} {f : β → γ} {g : α → δ}
    {F : Pairing α β → Pairing δ γ} (hpair : ∀ s r v, m'.pair (f s) (f r) (g v) = F (m.pair s r v))
    (hc : ∀ s rs, choice' (f s) (rs.map f) =
      (choice s rs).map fun (r, v, rest) => (f r, g v, rest.map f)) (ss rs : List β) :
    m'.passWith choice' (ss.map f) (rs.map f) =
      ⟨(m.passWith choice ss rs).pairings.map F, (m.passWith choice ss rs).students.map f,
        (m.passWith choice ss rs).references.map f⟩ := by
  -- By induction on the submission, for any pool: what one choice leaves is what the other leaves.
  induction ss generalizing rs with
  | nil => rfl
  | cons s ss ih =>
    rw [List.map_cons]
    rcases hs : choice s rs with _ | ⟨r, v, rest⟩
    · have hs' : choice' (f s) (rs.map f) = none := by rw [hc, hs, Option.map_none]
      rw [passWith_cons_none hs, passWith_cons_none hs', ih]
      rfl
    · have hs' : choice' (f s) (rs.map f) = some (f r, g v, rest.map f) := by
        rw [hc, hs, Option.map_some]
      rw [passWith_cons_some hs, passWith_cons_some hs', ih, hpair]
      rfl

/-! ## Both passes -/

section Run

variable (m : Matcher α β) (ss rs : List β)

/-- What the exact pass comes to. -/
def exactResult : PassResult α β :=
  m.passWith m.exactChoice ss rs

/-- The exact pass does not look at the threshold. -/
theorem exactResult_threshold (t : α) :
    ({ m with threshold := t } : Matcher α β).exactResult ss rs = m.exactResult ss rs :=
  m.passWith_threshold m.exactChoice t ss rs

/-- What the approximate pass comes to on what the exact one leaves over. -/
def bestResult : PassResult α β :=
  m.passWith m.bestChoice (m.exactResult ss rs).students (m.exactResult ss rs).references

/-- The pairings of both passes are those of the exact pass and then those for the best scores. -/
theorem run_pairings : (m.run ss rs).pairings =
    (m.exactResult ss rs).pairings ++ (m.bestResult ss rs).pairings := by
  simp only [run, exactPass_eq, approximatePass_eq, exactResult, bestResult]

/-- The students left over are those that the second pass leaves over. -/
theorem run_students : (m.run ss rs).students = (m.bestResult ss rs).students := by
  simp only [run, exactPass_eq, approximatePass_eq, exactResult, bestResult]

/-- The references left over are those that the second pass leaves over. -/
theorem run_references : (m.run ss rs).references = (m.bestResult ss rs).references := by
  simp only [run, exactPass_eq, approximatePass_eq, exactResult, bestResult]

/-- The two passes pair or leave over each element of the submission. -/
theorem run_students_perm :
    ((m.run ss rs).pairings.map Pairing.student ++ (m.run ss rs).students).Perm ss := by
  rw [run_pairings, run_students, List.map_append, List.append_assoc]
  exact ((passWith_students_perm _ _).append_left _).trans (passWith_students_perm ss rs)

/-- The two passes pair or leave over each reference. -/
theorem run_references_perm :
    ((m.run ss rs).pairings.map Pairing.reference ++ (m.run ss rs).references).Perm rs := by
  rw [run_pairings, run_references, List.map_append, List.append_assoc]
  exact ((passWith_references_perm m.bestChoice_removes _ _).append_left _).trans
    (passWith_references_perm m.exactChoice_removes ss rs)

end Run

/-! ## What the pairs are -/

section Pairs

variable {m : Matcher α β} {ss rs : List β} {p : Pairing α β}

/-- The exact pass pairs elements that agree, with full similarity. -/
theorem mem_exactResult (hp : p ∈ (m.exactResult ss rs).pairings) :
    (m.view p.student).agrees (m.view p.reference) = true ∧ p.similarity = one := by
  obtain ⟨⟨pool, rest, hpick⟩, -⟩ := mem_passWith hp
  refine ⟨m.exactChoice_picks.accepted hpick, ?_⟩
  obtain ⟨⟨x, left⟩, -, heq⟩ := Option.map_eq_some_iff.1 hpick
  exact (Prod.mk.inj (Prod.mk.inj heq).2).1.symm

/-- The differences of a pair are those between the signatures of its two elements. -/
theorem differences_of_mem_run (hp : p ∈ (m.run ss rs).pairings) :
    p.differences = explain α (some (m.view p.student).kind) (m.view p.student).signature
      (m.view p.reference).signature := by
  rw [run_pairings, List.mem_append] at hp
  rcases hp with hexact | hbest
  · exact congrArg Pairing.differences (mem_passWith hexact).2
  · exact congrArg Pairing.differences (mem_passWith hbest).2

variable [ScoreOrder α]

/-- The approximate pass pairs elements that reach the threshold, with their score. -/
theorem mem_bestResult (hp : p ∈ (m.bestResult ss rs).pairings) :
    m.Reaches p.student p.reference ∧
      p.similarity = m.score (m.view p.student) (m.view p.reference) := by
  obtain ⟨⟨pool, rest, hpick⟩, -⟩ := mem_passWith hp
  refine ⟨m.bestChoice_picks.accepted hpick, ?_⟩
  obtain ⟨-, -, -, -, hscore⟩ := takeBest_split (Option.filter_eq_some_iff.1 hpick).1
  exact hscore

end Pairs

end Matcher

end StructureGrader
