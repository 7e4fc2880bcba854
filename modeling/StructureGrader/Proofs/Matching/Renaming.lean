import StructureGrader.Proofs.Matching.Conservation

/-!
# What a comparison sees of its elements

A matcher may work on any names of elements: their positions in a pool, or their places in a list.
Of what stands behind two names it sees whether they agree, how they score, and the kind and the
signature of each. `Matcher.Renames` says that a matcher sees the same behind `f x` as another one
sees behind `x`.

Then everything that the one does, the other does under the new names: it makes the same choices
(`Renames.exactChoice`, `Renames.bestChoice`), goes through the same passes (`Renames.passWith`) and
comes to the same summary (`Renames.summarize`). Nothing is asked of `f`. Two names may become one,
for an element that is taken out is taken out at its own place in the list.
-/

namespace StructureGrader

open ScoreNumber

variable {α β γ : Type}

/-! ## Results under other names -/

section Map

variable (f : β → γ)

/-- The pairing under other names. -/
def Pairing.map (p : Pairing α β) : Pairing α γ :=
  ⟨f p.student, f p.reference, p.similarity, p.differences⟩

/-- The result of a pass under other names. -/
def PassResult.map (r : PassResult α β) : PassResult α γ :=
  ⟨r.pairings.map (Pairing.map f), r.students.map f, r.references.map f⟩

/-- The summary under other names. -/
def Summary.map (s : Summary α β) : Summary α γ :=
  { pairings := s.pairings.map (Pairing.map f)
    unmatchedStudents := s.unmatchedStudents.map f
    unmatchedReferences := s.unmatchedReferences.map f
    overall := s.overall
    totalStudents := s.totalStudents
    totalReferences := s.totalReferences }

end Map

/-! ## Choices under other names -/

/-- The first candidate that fits, among renamed ones, is the renamed first that fits. -/
theorem takeFirst_map (f : β → γ) (p : γ → Bool) (xs : List β) :
    takeFirst p (xs.map f) =
      (takeFirst (fun x => p (f x)) xs).map fun (x, rest) => (f x, rest.map f) := by
  induction xs with
  | nil => rfl
  | cons x xs ih =>
    rw [List.map_cons, takeFirst, takeFirst, ih]
    by_cases hx : p (f x)
    · rw [if_pos hx, if_pos hx, Option.map_some]
    · rw [if_neg hx, if_neg hx, Option.map_map, Option.map_map]
      rfl

/-- Under other names a choice picks the same. -/
def Choice.Renames (f : β → γ) (choice : Choice α β) (choice' : Choice α γ) : Prop :=
  ∀ s rs, choice' (f s) (rs.map f) =
    (choice s rs).map fun (r, v, rest) => (f r, v, rest.map f)

/-! ## Matchers under other names -/

namespace Matcher

/-- The second matcher sees behind `f x` what the first one sees behind `x`. -/
structure Renames (f : β → γ) (m : Matcher α β) (m' : Matcher α γ) : Prop where
  threshold : m'.threshold = m.threshold
  agrees : ∀ s r, (m'.view (f s)).agrees (m'.view (f r)) = (m.view s).agrees (m.view r)
  score : ∀ s r, m'.score (m'.view (f s)) (m'.view (f r)) = m.score (m.view s) (m.view r)
  kind : ∀ x, (m'.view (f x)).kind = (m.view x).kind
  signature : ∀ x, (m'.view (f x)).signature = (m.view x).signature

namespace Renames

variable {f : β → γ} {m : Matcher α β} {m' : Matcher α γ} {choice : Choice α β}
  {choice' : Choice α γ}

/-- The elements of a kind are the same. -/
theorem ofKind (h : m.Renames f m') (kind : ElementKind) (xs : List β) :
    StructureGrader.ofKind m'.view kind (xs.map f) =
      (StructureGrader.ofKind m.view kind xs).map f := by
  rw [StructureGrader.ofKind, StructureGrader.ofKind, List.filter_map]
  exact congrArg _ (List.filter_congr fun x _ => by rw [Function.comp_apply, h.kind])

variable [ScoreNumber α]

/-- The exact choice goes along with a renaming. -/
theorem exactChoice (h : m.Renames f m') : m.exactChoice.Renames f m'.exactChoice := by
  intro s rs
  simp only [Matcher.exactChoice, takeFirst_map, h.agrees, Option.map_map]
  rfl

/-- The best choice goes along with a renaming. -/
theorem bestChoice (h : m.Renames f m') : m.bestChoice.Renames f m'.bestChoice := by
  intro s rs
  have hbest := takeBest_map (g := id) (fun _ _ => Iff.rfl)
    (fun r => m'.score (m'.view (f s)) (m'.view r)) (fun r => h.score s r) zero rs
  rw [id_eq] at hbest
  rw [Matcher.bestChoice, hbest, h.threshold, Matcher.bestChoice]
  rcases takeBest (fun r => m.score (m.view s) (m.view r)) zero rs with _ | ⟨r, v, rest⟩
  · rfl
  · by_cases hv : m.threshold ≤ v <;> simp [Option.filter_some, hv]

/-- A pair of renamed elements is the renamed pair. -/
theorem pair (h : m.Renames f m') (s r : β) (v : α) :
    m'.pair (f s) (f r) v = (m.pair s r v).map f := by
  rw [Matcher.pair, h.kind, h.signature, h.signature]
  rfl

/-- A pass with the same choices comes to the same result. -/
theorem passWith (h : m.Renames f m') (hc : choice.Renames f choice') (ss rs : List β) :
    m'.passWith choice' (ss.map f) (rs.map f) = (m.passWith choice ss rs).map f :=
  passWith_map (g := id) h.pair hc ss rs

/-- Both passes come to the same result. -/
theorem run (h : m.Renames f m') (ss rs : List β) :
    m'.run (ss.map f) (rs.map f) = (m.run ss rs).map f := by
  have hexact : m'.exactPass (ss.map f) (rs.map f) = (m.exactPass ss rs).map f := by
    rw [exactPass_eq, exactPass_eq, h.passWith h.exactChoice]
  have hbest : ∀ ss rs : List β,
      m'.approximatePass (ss.map f) (rs.map f) = (m.approximatePass ss rs).map f := fun ss rs => by
    rw [approximatePass_eq, approximatePass_eq, h.passWith h.bestChoice]
  simp only [Matcher.run, hexact, PassResult.map, hbest, List.map_append]

/-- The result for one kind goes along with a renaming. -/
theorem runKind (h : m.Renames f m') (ss rs : List β) (kind : ElementKind) :
    m'.runKind (ss.map f) (rs.map f) kind = (m.runKind ss rs kind).map f := by
  rw [Matcher.runKind, Matcher.runKind, h.ofKind, h.ofKind, h.run]

/-- All kinds come to the same summary. -/
theorem summarize (h : m.Renames f m') (ss rs : List β) :
    m'.summarize (ss.map f) (rs.map f) = (m.summarize ss rs).map f := by
  simp only [Matcher.summarize, Summary.map, List.flatMap_map, List.map_flatMap, List.length_map,
    h.runKind, PassResult.map, List.map_map]
  rfl

end Renames

end Matcher

end StructureGrader
