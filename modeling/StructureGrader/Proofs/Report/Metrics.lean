import StructureGrader.Proofs.Comparison.Outcomes
import Mathlib.Algebra.GroupWithZero.Nat

/-!
# The figures of a comparison add up

The figures are counted in different places: pairs by the kind of their reference, leftover elements
by their own kind, and the classes of pairs by what stands on the element of the submission.
`Metrics.Balanced` says how these counts meet, and `collectMetrics_balanced` that they do after
every comparison in which no element is listed twice.

Two steps on the way to the figures can fail: a division by the number of pairs, and the counting of
a pair whose element is of no class. `collectMetrics?` takes both as they come. It has a result
exactly where each paired element has been classified, and the result is that of `collectMetrics`
(`collectMetrics?_eq_some`).
-/

namespace StructureGrader

open ScoreNumber

variable {α β : Type}

/-! ## The steps that can fail -/

/-- A quotient, unless nothing is counted in the divisor. -/
def divideBy? [ScoreNumber α] (x : α) (n : Nat) : Option α :=
  if n = 0 then none else some (x / ofNat n)

/-- The share of similarities from nine tenths on; zero where there are none. -/
def shareAbove90? [ScoreNumber α] (similarities : List α) : Option α :=
  if similarities.isEmpty then some zero
  else
    divideBy? (ofNat (similarities.countP fun x => decide (decimal 9 1 ≤ x))) similarities.length

/-- The counts with one more of a type. -/
def TypeCounts.add (c : TypeCounts) : MatchType → TypeCounts
  | .exact => { c with exact := c.exact + 1 }
  | .similar => { c with similar := c.similar + 1 }
  | .missing => { c with missing := c.missing + 1 }
  | .extra => { c with extra := c.extra + 1 }

/-- The counts with one more for each pair, of the type that stands on its element of the
submission; there is none for an element of no type. -/
def countPairs? (outcomes : Outcomes α β) (c : TypeCounts) (ps : List (Pairing α β)) :
    Option TypeCounts :=
  ps.foldlM (fun c p => (outcomes p.student).matchType.map c.add) c

/-- The counts by classification: first the pairs, then what is left over on either side, in place
of what the pairs have come to. -/
def typeCounts? (outcomes : Outcomes α β) (s : Summary α β) : Option TypeCounts := do
  let counted ← countPairs? outcomes ⟨0, 0, 0, 0⟩ s.pairings
  return { counted with
    extra := s.unmatchedStudents.length
    missing := s.unmatchedReferences.length }

/-- The figures of a comparison, with each step that can fail. -/
def collectMetrics? [ScoreNumber α] (view : β → Element) (outcomes : Outcomes α β)
    (s : Summary α β) : Option (Metrics α) := do
  let matchTypes ← typeCounts? outcomes s
  let shareAbove90 ← shareAbove90? (s.pairings.map Pairing.similarity)
  return { collectMetrics view outcomes s with matchTypes, shareAbove90 }

/-- The share of pairs above 0.9 follows from the similarities of the pairings, in order. -/
theorem shareAbove90?_eq [ScoreNumber α] (view : β → Element) (outcomes : Outcomes α β)
    (s : Summary α β) :
    shareAbove90? (s.pairings.map Pairing.similarity) =
      some (collectMetrics view outcomes s).shareAbove90 := by
  rw [shareAbove90?, collectMetrics]
  rcases h : s.pairings.map Pairing.similarity with _ | ⟨x, xs⟩
  · rfl
  · simp [divideBy?]

/-- Every paired element of the submission is of some class. -/
def Summary.Classified (outcomes : Outcomes α β) (s : Summary α β) : Prop :=
  ∀ p ∈ s.pairings, (outcomes p.student).matchType.isSome

section Counting

variable {outcomes : Outcomes α β} {s : Summary α β}

/-- Pairs that are classified are counted one by one. -/
theorem countPairs?_eq {ps : List (Pairing α β)}
    (h : ∀ p ∈ ps, (outcomes p.student).matchType.isSome) (c : TypeCounts) :
    let count (t : MatchType) : Nat := ps.countP fun p => (outcomes p.student).matchType == some t
    countPairs? outcomes c ps =
      some ⟨c.exact + count .exact, c.similar + count .similar, c.missing + count .missing,
        c.extra + count .extra⟩ := by
  induction ps generalizing c with
  | nil => rfl
  | cons p ps ih =>
    obtain ⟨hp, hps⟩ := List.forall_mem_cons.1 h
    obtain ⟨t, ht⟩ := Option.isSome_iff_exists.1 hp
    have hstep : countPairs? outcomes c (p :: ps) = countPairs? outcomes (c.add t) ps := by
      rw [countPairs?, List.foldlM_cons, ht]
      rfl
    intro count
    rw [hstep, ih hps]
    -- The pair adds one to the count of its own type and nothing to the others.
    cases t <;> simp [count, TypeCounts.add, ht, Nat.add_assoc, Nat.add_comm 1]

/-- The numbers for each kind follow from the outcomes and the summary. -/
theorem typeCounts?_eq (h : s.Classified outcomes) :
    typeCounts? outcomes s = some (typeCounts outcomes s) := by
  rw [typeCounts?, countPairs?_eq h]
  simp [typeCounts]

/-- A pair that is not classified is not counted, and nothing is after it. -/
theorem classified_of_countPairs? {ps : List (Pairing α β)} {c counted : TypeCounts}
    (h : countPairs? outcomes c ps = some counted) :
    ∀ p ∈ ps, (outcomes p.student).matchType.isSome := by
  induction ps generalizing c with
  | nil => simp
  | cons p ps ih =>
    rw [countPairs?, List.foldlM_cons] at h
    obtain ⟨next, hnext, hps⟩ := Option.bind_eq_some_iff.1 h
    obtain ⟨t, ht, -⟩ := Option.map_eq_some_iff.1 hnext
    exact List.forall_mem_cons.2 ⟨Option.isSome_of_eq_some ht, ih hps⟩

/-- There are figures exactly where all pairs are classified. -/
theorem collectMetrics?_eq_some [ScoreNumber α] {view : β → Element} {m : Metrics α} :
    collectMetrics? view outcomes s = some m ↔
      s.Classified outcomes ∧ collectMetrics view outcomes s = m := by
  constructor
  · intro h
    obtain ⟨matchTypes, htypes, -⟩ := Option.bind_eq_some_iff.1 h
    obtain ⟨counted, hcounted, -⟩ := Option.bind_eq_some_iff.1 htypes
    have hclassified : s.Classified outcomes := classified_of_countPairs? hcounted
    rw [collectMetrics?, typeCounts?_eq hclassified, shareAbove90?_eq view outcomes] at h
    exact ⟨hclassified, Option.some.inj h⟩
  · rintro ⟨hclassified, rfl⟩
    rw [collectMetrics?, typeCounts?_eq hclassified, shareAbove90?_eq view outcomes]
    rfl

end Counting

/-! ## How the figures meet -/

/-- The figures add up, kind by kind, class by class and side by side. -/
structure Metrics.Balanced [ScoreNumber α] (view : β → Element) (students references : List β)
    (s : Summary α β) (m : Metrics α) : Prop where
  kinds : m.perKind.map Prod.fst = ElementKind.all
  row : ∀ kind c, (kind, c) ∈ m.perKind →
    c.matched + c.extra = (ofKind view kind students).length ∧
      c.matched + c.missing = (ofKind view kind references).length
  sumMatched : (m.perKind.map fun (_, c) => c.matched).sum = m.matched
  sumExtra : (m.perKind.map fun (_, c) => c.extra).sum = m.matchTypes.extra
  sumMissing : (m.perKind.map fun (_, c) => c.missing).sum = m.matchTypes.missing
  classes : m.matchTypes.exact + m.matchTypes.similar = m.matched
  exact : m.matchTypes.exact = s.pairings.countP fun p => decide (decimal 95 2 ≤ p.similarity)
  allStudents : m.matched + m.matchTypes.extra = m.totalStudents ∧
    m.totalStudents = students.length
  allReferences : m.matched + m.matchTypes.missing = m.totalReferences ∧
    m.totalReferences = references.length

/-- Counted kind by kind, every element is counted once. -/
theorem sum_countP_kind (view : β → Element) (xs : List β) :
    (ElementKind.all.map fun kind => xs.countP fun x => (view x).kind == kind).sum = xs.length := by
  simp only [← length_ofKind]
  rw [← List.length_flatMap]
  exact (flatMap_ofKind_perm view xs).length_eq

/-- Where both sides are split into paired and left over, and pairs are of one kind, so is each
kind. -/
theorem kindCounts_of_partition {view : β → Element} {s : Summary α β} {students references : List β}
    (hstudents : (s.pairings.map Pairing.student ++ s.unmatchedStudents).Perm students)
    (hreferences : (s.pairings.map Pairing.reference ++ s.unmatchedReferences).Perm references)
    (hkind : ∀ p ∈ s.pairings, (view p.student).kind = (view p.reference).kind)
    (kind : ElementKind) :
    (kindCounts view s kind).matched + (kindCounts view s kind).extra =
        (ofKind view kind students).length ∧
      (kindCounts view s kind).matched + (kindCounts view s kind).missing =
        (ofKind view kind references).length := by
  -- A pair is counted for the kind of its reference.
  have hpairs : s.pairings.countP (fun p => (view p.student).kind == kind) =
      (kindCounts view s kind).matched :=
    List.countP_congr fun p hp => by rw [hkind p hp]
  rw [length_ofKind, length_ofKind, ← hstudents.countP_eq, ← hreferences.countP_eq,
    List.countP_append, List.countP_append, List.countP_map, List.countP_map, ← hpairs]
  exact ⟨rfl, congrArg (· + _) hpairs⟩

/-- Where a pair is exact from a similarity on and similar below it, the pairs are counted once. -/
theorem typeCounts_of_marked [ScoreNumber α] {outcomes : Outcomes α β} {s : Summary α β}
    (h : ∀ p ∈ s.pairings, outcomes p.student = .paired p.similarity) :
    (typeCounts outcomes s).exact =
        s.pairings.countP (fun p => decide (Outcome.exactThreshold ≤ p.similarity)) ∧
      (typeCounts outcomes s).exact + (typeCounts outcomes s).similar = s.pairings.length := by
  have hexact : (typeCounts outcomes s).exact =
      s.pairings.countP fun p => decide (Outcome.exactThreshold ≤ p.similarity) :=
    List.countP_congr fun p hp => by
      by_cases hle : Outcome.exactThreshold ≤ p.similarity <;> simp [h p hp, Outcome.paired, hle]
  have hsimilar : (typeCounts outcomes s).similar =
      s.pairings.countP fun p => !decide (Outcome.exactThreshold ≤ p.similarity) :=
    List.countP_congr fun p hp => by
      by_cases hle : Outcome.exactThreshold ≤ p.similarity <;> simp [h p hp, Outcome.paired, hle]
  refine ⟨hexact, ?_⟩
  rw [hexact, hsimilar]
  simpa using (List.length_eq_countP_add_countP (l := s.pairings)
    fun p => decide (Outcome.exactThreshold ≤ p.similarity)).symm

namespace Session

/-- After a comparison in which no element is listed twice there are figures, and they add up. -/
theorem collectMetrics_balanced [ScoreNumber α] (s after : Session α) (threshold : α) (w : Watch)
    (students references : List Nat) (summary : Summary α Nat)
    (hnodup : (students ++ references).Nodup)
    (h : s.compare threshold w students references = (.ok summary, after)) :
    ∃ m, collectMetrics? after.view after.outcomes summary = some m ∧
      m.Balanced after.view students references summary := by
  have hmarked : ∀ p ∈ summary.pairings, after.outcomes p.student = .paired p.similarity :=
    fun p hp => outcome_of_compare hnodup h hp (Or.inl rfl)
  have hclassified : summary.Classified after.outcomes := fun p hp => by
    rw [hmarked p hp]
    rfl
  obtain ⟨hexact, hclasses⟩ := typeCounts_of_marked hmarked
  obtain ⟨-, rfl, rfl⟩ := compare_eq_ok.1 h
  have hstudents := (s.matcher threshold).summarize_students_perm students references
  have hreferences := (s.matcher threshold).summarize_references_perm students references
  have hrow := kindCounts_of_partition hstudents hreferences fun p hp =>
    Matcher.summarize_same_kind hp
  refine ⟨_, collectMetrics?_eq_some.2 ⟨hclassified, rfl⟩, ?_⟩
  exact {
    kinds := rfl
    row := by
      rintro kind c hc
      obtain ⟨_, -, heq⟩ := List.mem_map.1 hc
      obtain ⟨rfl, rfl⟩ := Prod.mk.inj heq
      exact hrow _
    sumMatched := by
      rw [collectMetrics, List.map_map]
      exact sum_countP_kind (fun p : Pairing α Nat => s.view p.reference) _
    sumExtra := by
      rw [collectMetrics, List.map_map]
      exact sum_countP_kind s.view _
    sumMissing := by
      rw [collectMetrics, List.map_map]
      exact sum_countP_kind s.view _
    classes := hclasses
    exact := hexact
    allStudents := ⟨(s.matcher threshold).summarize_length_students students references, rfl⟩
    allReferences := ⟨(s.matcher threshold).summarize_length_references students references, rfl⟩ }

/-- Two pairs, one of them exact, and a field left over in the reference. -/
theorem collectMetrics_balanced_samplePool :
    let compared := Matcher.samplePool.compare 0.7 {} [0, 2] [1, 3, 4]
    let summary := (Matcher.samplePool.matcher 0.7).summarize [0, 2] [1, 3, 4]
    compared.1 = .ok summary ∧
      (collectMetrics compared.2.view compared.2.outcomes summary).matchTypes = ⟨1, 1, 1, 0⟩ ∧
      ∃ m, collectMetrics? compared.2.view compared.2.outcomes summary = some m ∧
        m.Balanced compared.2.view [0, 2] [1, 3, 4] summary :=
  ⟨rfl, by decide +kernel,
    collectMetrics_balanced Matcher.samplePool _ 0.7 {} [0, 2] [1, 3, 4] _ (by decide) rfl⟩

/-- A method that stands on both sides, and is paired on one and missing on the other, counts as a
pair of neither class. -/
example :
    let compared := Matcher.samplePool.compare 0.7 {} [0] [1, 0]
    let summary := (Matcher.samplePool.matcher 0.7).summarize [0] [1, 0]
    summary.pairings.length = 1 ∧
      (collectMetrics compared.2.view compared.2.outcomes summary).matchTypes = ⟨0, 0, 1, 0⟩ := by
  decide +kernel

end Session

end StructureGrader
