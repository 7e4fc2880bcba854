import StructureGrader.Proofs.Comparison.Stopping

/-!
# What a comparison leaves on its elements

Outcomes are written one after the other: both sides of each pair, then the extra elements, then the
missing ones. An element that is listed several times is written several times, and the last of
these stays (`Outcomes.classify_written`): what it is as a reference left over, else as an element
of the submission left over, else in the last pair that holds it. Nothing else is touched.

So whatever stands on an element agrees with itself, at any time and in any session in which outcomes
come from comparisons alone (`Session.Consistent.run`): the type of the match, whether there is one,
and its similarity say the same. `compare_writes` puts both together.
-/

namespace StructureGrader

open ScoreNumber ScoreOrder

variable {α β : Type}

/-! ## Pairs that hold an element -/

namespace Pairing

/-- An element stands on a side of a pair. -/
def Holds (p : Pairing α β) (x : β) : Prop :=
  x = p.student ∨ x = p.reference

instance [DecidableEq β] (p : Pairing α β) (x : β) : Decidable (p.Holds x) :=
  inferInstanceAs (Decidable (_ ∨ _))

/-- Of several pairs in order a pair is the last one that holds an element. -/
def IsLast (p : Pairing α β) (ps : List (Pairing α β)) (x : β) : Prop :=
  ∃ front back, ps = front ++ p :: back ∧ p.Holds x ∧ ∀ q ∈ back, ¬ q.Holds x

variable {ps : List (Pairing α β)} {p q : Pairing α β} {x : β}

/-- An element that stands in some pair stands in a last one. -/
theorem exists_isLast (h : ∃ p ∈ ps, p.Holds x) : ∃ p : Pairing α β, p.IsLast ps x := by
  induction ps with
  | nil => simp at h
  | cons first ps ih =>
    by_cases hrest : ∃ p ∈ ps, p.Holds x
    · obtain ⟨p, front, back, rfl, hp, hback⟩ := ih hrest
      exact ⟨p, first :: front, back, rfl, hp, hback⟩
    · simp only [List.mem_cons, exists_eq_or_imp, hrest, or_false] at h
      exact ⟨first, [], ps, rfl, h, fun q hq hholds => hrest ⟨q, hq, hholds⟩⟩

/-- The last pairing of an element is one of the pairings. -/
theorem IsLast.mem (h : p.IsLast ps x) : p ∈ ps := by
  obtain ⟨front, back, rfl, -, -⟩ := h
  exact List.mem_append_right _ List.mem_cons_self

/-- The last pairing of an element holds it. -/
theorem IsLast.holds (h : p.IsLast ps x) : p.Holds x := by
  obtain ⟨front, back, -, hp, -⟩ := h
  exact hp

/-- Where no element stands twice, on one side or on both, two pairs that hold an element are one.
-/
theorem eq_of_holds (hnodup : (ps.map student ++ ps.map reference).Nodup) (hp : p ∈ ps)
    (hq : q ∈ ps) (hpx : p.Holds x) (hqx : q.Holds x) : p = q := by
  obtain ⟨hstudents, hreferences, hdisjoint⟩ := List.nodup_append.1 hnodup
  have hapart : ∀ a ∈ ps, ∀ b ∈ ps, a.student ≠ b.reference := fun a ha b hb =>
    hdisjoint _ (List.mem_map_of_mem ha) _ (List.mem_map_of_mem hb)
  rcases hpx with rfl | rfl <;> rcases hqx with heq | heq
  · exact List.inj_on_of_nodup_map hstudents hp hq heq
  · exact absurd heq (hapart p hp q hq)
  · exact absurd heq.symm (hapart q hq p hp)
  · exact List.inj_on_of_nodup_map hreferences hp hq heq

end Pairing

/-! ## Writing outcomes -/

namespace Outcomes

variable [DecidableEq β] {o : Outcomes α β} {x y : β}

/-- To set the outcome of one element leaves those of the others. -/
theorem set_apply (outcome : Outcome α) : o.set x outcome y = if y = x then outcome else o y :=
  rfl

/-- Of the same outcome for several elements it does not matter how often one is listed. -/
theorem setAll_apply (xs : List β) (outcome : Outcome α) :
    o.setAll xs outcome y = if y ∈ xs then outcome else o y := by
  induction xs generalizing o with
  | nil => rfl
  | cons x xs ih =>
    rw [setAll, List.foldl_cons]
    refine ih.trans ?_
    by_cases hx : y = x <;> by_cases hxs : y ∈ xs <;> simp [set_apply, hx, hxs]

variable [ScoreNumber α] {ps : List (Pairing α β)} {p : Pairing α β}

/-- To set the outcomes of a pairing changes those of its two elements alone. -/
theorem setPairing_apply :
    o.setPairing p y = if p.Holds y then .paired p.similarity else o y := by
  rw [setPairing, set_apply, set_apply]
  by_cases hr : y = p.reference <;> by_cases hs : y = p.student <;> simp [Pairing.Holds, hr, hs]

/-- Pairs leave elements alone that stand in none of them. -/
theorem foldl_setPairing_of_not_holds (h : ∀ p ∈ ps, ¬ p.Holds y) :
    ps.foldl setPairing o y = o y := by
  induction ps generalizing o with
  | nil => rfl
  | cons p ps ih =>
    rw [List.foldl_cons, ih fun q hq => h q (List.mem_cons_of_mem _ hq), setPairing_apply,
      if_neg (h p List.mem_cons_self)]

/-- On an element that stands in several pairs the last one stays. -/
theorem foldl_setPairing_of_isLast (h : p.IsLast ps y) :
    ps.foldl setPairing o y = .paired p.similarity := by
  obtain ⟨front, back, rfl, hp, hback⟩ := h
  rw [List.foldl_append, List.foldl_cons, foldl_setPairing_of_not_holds hback, setPairing_apply,
    if_pos hp]

/-- The missing elements are written last and the extra ones before them. -/
theorem classify_apply (o : Outcomes α β) (r : PassResult α β) (x : β) :
    o.classify r x =
      if x ∈ r.references then .unpaired .missing
      else if x ∈ r.students then .unpaired .extra
      else r.pairings.foldl setPairing o x := by
  rw [classify, setAll_apply, setAll_apply]

/-- What stands on the elements, given what stood on them before, when a result has been written. -/
structure Written (before after : Outcomes α β) (r : PassResult α β) : Prop where
  missing : ∀ x ∈ r.references, after x = ⟨false, some .missing, zero⟩
  extra : ∀ x ∉ r.references, x ∈ r.students → after x = ⟨false, some .extra, zero⟩
  /-- The last of the pairs that hold an element says what stands on it. -/
  paired : ∀ x ∉ r.references, x ∉ r.students → (∃ p ∈ r.pairings, p.Holds x) →
    ∃ p : Pairing α β, p.IsLast r.pairings x ∧
      after x =
        ⟨true, some (if Outcome.exactThreshold ≤ p.similarity then .exact else .similar),
          p.similarity⟩
  unlisted : ∀ x ∉ r.references, x ∉ r.students → (∀ p ∈ r.pairings, ¬ p.Holds x) →
    after x = before x

/-- Of the outcomes for an element the one as a reference left over counts most, then the one as an
element of the submission left over, then the last pair. -/
theorem classify_written (o : Outcomes α β) (r : PassResult α β) : o.Written (o.classify r) r where
  missing x hx := by
    rw [classify_apply, if_pos hx]
    rfl
  extra x hmissing hx := by
    rw [classify_apply, if_neg hmissing, if_pos hx]
    rfl
  paired x hmissing hextra hx := by
    obtain ⟨p, hp⟩ := Pairing.exists_isLast hx
    rw [classify_apply, if_neg hmissing, if_neg hextra]
    exact ⟨p, hp, foldl_setPairing_of_isLast hp⟩
  unlisted x hmissing hextra hx := by
    rw [classify_apply, if_neg hmissing, if_neg hextra, foldl_setPairing_of_not_holds hx]

end Outcomes

/-! ## Outcomes that agree with themselves -/

/-- Scores that are compared by the laws of their order, and for which a full score is exact. -/
class ScoreScale (α : Type) [ScoreNumber α] : Prop extends ScoreOrder α where
  exactThreshold_le_one : (Outcome.exactThreshold : α) ≤ one

instance : ScoreScale Rat where
  exactThreshold_le_one := by decide +kernel

instance : ScoreScale Float where
  exactThreshold_le_one := by decide +kernel

/-- The type of the match, whether there is one, and the similarity say the same. -/
structure Outcome.Consistent [ScoreNumber α] (o : Outcome α) : Prop where
  exact : o.matchType = some .exact → o.matched = true ∧ Outcome.exactThreshold ≤ o.similarity
  similar : o.matchType = some .similar → o.matched = true ∧ o.similarity < Outcome.exactThreshold
  /-- What is neither exact nor similar is missing, extra or of no type. -/
  unmatched : o.matchType ≠ some .exact → o.matchType ≠ some .similar →
    o.matched = false ∧ o.similarity = zero

namespace Outcome

variable [ScoreNumber α]

/-- An element that has not been compared says nothing that contradicts itself. -/
theorem consistent_fresh : (fresh : Outcome α).Consistent where
  exact h := by cases h
  similar h := by cases h
  unmatched _ _ := ⟨rfl, rfl⟩

/-- The outcome of an element left over says nothing that contradicts itself. -/
theorem consistent_unpaired {t : MatchType} (hexact : t ≠ .exact) (hsimilar : t ≠ .similar) :
    (unpaired t : Outcome α).Consistent where
  exact h := absurd (Option.some.inj h) hexact
  similar h := absurd (Option.some.inj h) hsimilar
  unmatched _ _ := ⟨rfl, rfl⟩

/-- The outcome of a paired element agrees with itself where its similarity is comparable. -/
theorem consistent_paired [ScoreScale α] {v : α} (hv : v ≤ v) : (paired v).Consistent := by
  have hself : (exactThreshold : α) ≤ exactThreshold :=
    (le_self ScoreScale.exactThreshold_le_one).1
  rw [paired]
  by_cases hexact : exactThreshold ≤ v
  · rw [if_pos hexact]
    exact ⟨fun _ => ⟨rfl, hexact⟩, fun h => (by cases h), fun h => absurd rfl h⟩
  · rw [if_neg hexact]
    exact ⟨fun h => (by cases h), fun _ => ⟨rfl, lt_of_not_le hself hv hexact⟩,
      fun _ h => absurd rfl h⟩

end Outcome

/-- Similarities of pairs are comparable: they are full, or they reach the threshold. -/
theorem Matcher.similarity_le_self [ScoreNumber α] [ScoreScale α] {m : Matcher α β}
    {students references : List β} {p : Pairing α β}
    (hp : p ∈ (m.summarize students references).pairings) : p.similarity ≤ p.similarity := by
  obtain ⟨kind, hkind⟩ := mem_summarize.1 hp
  rw [runKind, run_pairings, List.mem_append] at hkind
  rcases hkind with hexact | hbest
  · rw [(mem_exactResult hexact).2]
    exact (le_self ScoreScale.exactThreshold_le_one).2
  · obtain ⟨⟨-, hreach⟩, hscore⟩ := mem_bestResult hbest
    rw [hscore]
    exact (le_self hreach).2

/-- Where no element is listed twice, none is paired twice and none is both paired and left over. -/
theorem Matcher.summarize_nodup [ScoreNumber α] (m : Matcher α β) {students references : List β}
    (h : (students ++ references).Nodup) :
    ((m.summarize students references).pairings.map Pairing.student ++
        (m.summarize students references).pairings.map Pairing.reference ++
      ((m.summarize students references).unmatchedStudents ++
        (m.summarize students references).unmatchedReferences)).Nodup := by
  have hsides := (m.summarize_students_perm students references).append
    (m.summarize_references_perm students references)
  rw [← hsides.nodup_iff] at h
  refine (List.Perm.nodup_iff ?_).1 h
  rw [List.append_assoc, List.append_assoc]
  refine List.Perm.append_left _ ?_
  rw [← List.append_assoc, ← List.append_assoc]
  exact List.perm_append_comm.append_right _

/-- Each listed element is paired or left over. -/
theorem Matcher.mem_summarize_result [ScoreNumber α] (m : Matcher α β) {students references : List β}
    {x : β} (hx : x ∈ students ++ references) :
    x ∈ (m.summarize students references).result.references ∨
      x ∈ (m.summarize students references).result.students ∨
      ∃ p ∈ (m.summarize students references).result.pairings, p.Holds x := by
  rcases List.mem_append.1 hx with hx | hx
  · rw [← (m.summarize_students_perm students references).mem_iff, List.mem_append] at hx
    rcases hx with hpaired | hleft
    · obtain ⟨p, hp, rfl⟩ := List.mem_map.1 hpaired
      exact Or.inr (Or.inr ⟨p, hp, Or.inl rfl⟩)
    · exact Or.inr (Or.inl hleft)
  · rw [← (m.summarize_references_perm students references).mem_iff, List.mem_append] at hx
    rcases hx with hpaired | hleft
    · obtain ⟨p, hp, rfl⟩ := List.mem_map.1 hpaired
      exact Or.inr (Or.inr ⟨p, hp, Or.inr rfl⟩)
    · exact Or.inl hleft

/-- The step sets a mark that no comparison has found. -/
def Step.ByHand : Step α → Prop
  | .markMatched .. => True
  | .markUnmatched .. => True
  | _ => False

namespace Session

variable [ScoreNumber α] {s after : Session α} {threshold : α} {w : Watch}
  {students references : List Nat} {summary : Summary α Nat}

/-- Every outcome in the session agrees with itself. -/
def Consistent (s : Session α) : Prop :=
  ∀ x, (s.outcomes x).Consistent

/-- No outcome of a session that has just started contradicts itself. -/
theorem consistent_fresh (elements : Array Element) : (fresh elements : Session α).Consistent :=
  fun _ => Outcome.consistent_fresh

/-- A finished comparison writes its summary and changes nothing else. -/
theorem written_of_compare
    (h : s.compare threshold w students references = (.ok summary, after)) :
    Outcomes.Written s.outcomes after.outcomes summary.result ∧ after.elements = s.elements := by
  obtain ⟨-, -, rfl⟩ := compare_eq_ok.1 h
  exact ⟨Outcomes.classify_written s.outcomes summary.result, rfl⟩

/-- Where no element is listed twice, both sides of a pair are marked with this pair. -/
theorem outcome_of_compare (hnodup : (students ++ references).Nodup)
    (h : s.compare threshold w students references = (.ok summary, after)) {p : Pairing α Nat}
    (hp : p ∈ summary.pairings) {x : Nat} (hx : p.Holds x) :
    after.outcomes x = .paired p.similarity := by
  obtain ⟨⟨-, -, hpaired, -⟩, -⟩ := written_of_compare h
  obtain ⟨-, hsummary, -⟩ := compare_eq_ok.1 h
  have hsplit := (s.matcher threshold).summarize_nodup hnodup
  rw [hsummary] at hsplit
  obtain ⟨hpairs, -, hapart⟩ := List.nodup_append.1 hsplit
  -- A side of a pair is not left over, so the last pair that holds it decides, which is this one.
  have hside : x ∈ summary.pairings.map Pairing.student ++
      summary.pairings.map Pairing.reference := by
    rcases hx with rfl | rfl
    · exact List.mem_append_left _ (List.mem_map_of_mem hp)
    · exact List.mem_append_right _ (List.mem_map_of_mem hp)
  obtain ⟨q, hlast, hq⟩ := hpaired x
    (fun hmem => hapart x hside x (List.mem_append_right _ hmem) rfl)
    (fun hmem => hapart x hside x (List.mem_append_left _ hmem) rfl) ⟨p, hp, hx⟩
  rw [hq, Pairing.eq_of_holds hpairs hp hlast.mem hx hlast.holds]
  rfl

/-- Where no element is listed twice, both sides of a pair carry its similarity. -/
theorem similarity_of_compare (hnodup : (students ++ references).Nodup)
    (h : s.compare threshold w students references = (.ok summary, after)) {p : Pairing α Nat}
    (hp : p ∈ summary.pairings) {x : Nat} (hx : p.Holds x) :
    (after.outcomes x).similarity = p.similarity := by
  rw [outcome_of_compare hnodup h hp hx]
  rfl

variable [ScoreScale α]

/-- A comparison, stopped or not, leaves consistent outcomes consistent. -/
theorem Consistent.compare (hs : s.Consistent) {answer : Except Stop (Summary α Nat)}
    (h : s.compare threshold w students references = (answer, after)) : after.Consistent := by
  cases answer with
  | error stop =>
    obtain ⟨-, rfl⟩ := compare_eq_error.1 h
    exact hs
  | ok summary =>
    obtain ⟨⟨hmissing, hextra, hpaired, hunlisted⟩, -⟩ := written_of_compare h
    obtain ⟨-, hsummary, -⟩ := compare_eq_ok.1 h
    intro x
    by_cases hreference : x ∈ summary.unmatchedReferences
    · rw [hmissing x hreference]
      exact Outcome.consistent_unpaired (by decide) (by decide)
    by_cases hstudent : x ∈ summary.unmatchedStudents
    · rw [hextra x hreference hstudent]
      exact Outcome.consistent_unpaired (by decide) (by decide)
    by_cases hpair : ∃ p ∈ summary.pairings, p.Holds x
    · obtain ⟨p, hlast, hx⟩ := hpaired x hreference hstudent hpair
      have hp : p ∈ summary.pairings := hlast.mem
      rw [← hsummary] at hp
      rw [hx]
      exact Outcome.consistent_paired (Matcher.similarity_le_self hp)
    · rw [hunlisted x hreference hstudent fun p hp hx => hpair ⟨p, hp, hx⟩]
      exact hs x

/-- A step other than a mark set by hand leaves consistent outcomes consistent. -/
theorem Consistent.step (hs : s.Consistent) {step : Step α} (hstep : ¬ step.ByHand) :
    (s.step step).2.Consistent := by
  cases step with
  | markMatched x similarity => exact absurd trivial hstep
  | markUnmatched x matchType => exact absurd trivial hstep
  | compare threshold w students references =>
    rw [Session.step]
    rcases h : s.compare threshold w students references with ⟨_ | _, after⟩ <;>
      exact hs.compare h
  | _ => exact hs

/-- Outcomes that come from comparisons alone are consistent. -/
theorem Consistent.run (hs : s.Consistent) {steps : List (Step α)}
    (hsteps : ∀ step ∈ steps, ¬ step.ByHand) : (s.run steps).Consistent := by
  induction steps generalizing s with
  | nil => exact hs
  | cons step steps ih =>
    exact ih (hs.step (hsteps step List.mem_cons_self))
      fun next hnext => hsteps next (List.mem_cons_of_mem _ hnext)

/-- A finished comparison writes exactly its summary, and where no element is listed twice both
sides of a pair carry its similarity. After any steps but marks set by hand, in a session that began
with nothing known, the outcome of every element agrees with itself. -/
theorem compare_writes :
    (∀ (s : Session α) (threshold : α) (w : Watch) (students references : List Nat)
      (summary : Summary α Nat) (after : Session α),
      s.compare threshold w students references = (.ok summary, after) →
        Outcomes.Written s.outcomes after.outcomes summary.result ∧
          after.elements = s.elements ∧
          ((students ++ references).Nodup → ∀ p ∈ summary.pairings,
            (after.outcomes p.student).similarity = p.similarity ∧
              (after.outcomes p.reference).similarity = p.similarity)) ∧
      ∀ (elements : Array Element) (steps : List (Step α)), (∀ step ∈ steps, ¬ step.ByHand) →
        ((fresh elements : Session α).run steps).Consistent := by
  constructor
  · intro s threshold w students references summary after h
    obtain ⟨hwritten, helements⟩ := written_of_compare h
    refine ⟨hwritten, helements, fun hnodup p hp => ⟨?_, ?_⟩⟩
    · exact similarity_of_compare hnodup h hp (Or.inl rfl)
    · exact similarity_of_compare hnodup h hp (Or.inr rfl)
  · intro elements steps hsteps
    exact (consistent_fresh elements).run hsteps

/-- One method is paired twice, first with its equal and then with a longer name, and the second
pair stays on it; what an earlier comparison has left on the field is overwritten. In a comparison
without repetition the same method keeps the similarity of its only pair. -/
theorem compare_writes_samplePool :
    let s := Matcher.samplePool.run [.compare 0.7 {} [4] []]
    let summary := (s.matcher 0.7).summarize [0, 4, 0, 2] [1, 3, 4]
    let after := (s.compare 0.7 {} [0, 4, 0, 2] [1, 3, 4]).2
    let last := (after.compare 0.7 {} [0] [3]).2
    (s.outcomes 4).matchType = some .extra ∧ (after.outcomes 4).matchType = some .exact ∧
      summary.pairings.map (fun p => (p.student, p.reference)) = [(4, 4), (0, 1), (0, 3)] ∧
      (after.outcomes 0).matchType = some .similar ∧
      after.outcomes 2 = ⟨false, some .extra, zero⟩ ∧ after.elements = s.elements ∧
      (∀ p ∈ ((after.matcher 0.7).summarize [0] [3]).pairings,
        (last.outcomes p.student).similarity = p.similarity) ∧
      last.Consistent := by
  intro s summary after last
  obtain ⟨hwrites, hconsistent⟩ := @compare_writes Float _ _
  have hafter : s.compare 0.7 {} [0, 4, 0, 2] [1, 3, 4] = (.ok summary, after) := rfl
  have hlast : after.compare 0.7 {} [0] [3] =
      (.ok ((after.matcher 0.7).summarize [0] [3]), last) := rfl
  obtain ⟨hwritten, helements, -⟩ := hwrites _ _ _ _ _ _ _ hafter
  obtain ⟨-, -, hnodup⟩ := hwrites _ _ _ _ _ _ _ hlast
  have hsteps := hconsistent Matcher.samplePool.elements
    [.compare 0.7 {} [4] [], .compare 0.7 {} [0, 4, 0, 2] [1, 3, 4], .compare 0.7 {} [0] [3]]
    (by simp [Step.ByHand])
  exact ⟨by decide +kernel, by decide +kernel, by decide +kernel, by decide +kernel,
    hwritten.extra 2 (by decide +kernel) (by decide +kernel), helements,
    fun p hp => (hnodup (by decide) p hp).1, hsteps⟩

end Session

end StructureGrader
