import StructureGrader.Proofs.Comparison.Outcomes
import StructureGrader.Proofs.Matching.Renaming

/-!
# Comparisons do not depend on history

A session is worked on in any order: elements are compared, marked by hand, scored, looked at and
reported on (`Operation`). What a later comparison answers is decided by the elements that it is
given, as they are by then, and of these only by name, kind, signature and source
(`Element.SameContent`).

Two sessions are compared place by place. A `Twin` is an element of one session and one of the other
that have the same content; two lists of twins are what stands in the lists of both comparisons. One
summary of twins is then what both comparisons find (`compare_twins`), whatever is known about the
elements in either session. Operations that edit no element are not seen by later comparisons
(`compare_performAll`), and what a comparison has found and written is found and written again
(`compare_again`). `compare_forgets` puts these together.
-/

namespace StructureGrader

variable {α β : Type}

/-! ## Content -/

namespace Element

/-- Two elements have the same name, kind, signature and source; line, file and package are left
open. -/
structure SameContent (a b : Element) : Prop where
  name : a.name = b.name
  kind : a.kind = b.kind
  signature : a.signature = b.signature
  source : a.source = b.source

instance (a b : Element) : Decidable (a.SameContent b) :=
  decidable_of_iff (a.name = b.name ∧ a.kind = b.kind ∧ a.signature = b.signature ∧
    a.source = b.source)
    ⟨fun ⟨h₁, h₂, h₃, h₄⟩ => ⟨h₁, h₂, h₃, h₄⟩, fun ⟨h₁, h₂, h₃, h₄⟩ => ⟨h₁, h₂, h₃, h₄⟩⟩

variable {a a' b b' : Element}

/-- Whether two elements agree is a question about their content. -/
theorem SameContent.agrees (ha : a.SameContent a') (hb : b.SameContent b') :
    a.agrees b = a'.agrees b' := by
  rw [Element.agrees, ha.signature, ha.name, hb.signature, hb.name, Element.agrees]

/-- The score of two elements is a question about their content. -/
theorem SameContent.score [ScoreNumber α] (w : Weights α) (ha : a.SameContent a')
    (hb : b.SameContent b') : w.score a b = w.score a' b' := by
  rw [Weights.score, ha.signature, ha.name, ha.source, hb.signature, hb.name, hb.source,
    Weights.score]

end Element

/-! ## Operations -/

/-- What can be done between two comparisons: a step of the session, or a report on a summary. -/
inductive Operation (α : Type)
  | step (step : Step α)
  | report (summary : Summary α Nat)

/-- The operation changes the content of an element. -/
def Operation.Edits : Operation α → Prop
  | .step (.edit ..) => True
  | _ => False

namespace Session

variable [ScoreNumber α]

/-- What an operation answers, and the session after it. A report reads the session and leaves it.
-/
def perform (s : Session α) : Operation α → (Answer α ⊕ Report α) × Session α
  | .step step => (.inl (s.step step).1, (s.step step).2)
  | .report summary => (.inr (Report.of s.view s.outcomes summary), s)

/-- The session after several operations. -/
def performAll (s : Session α) : List (Operation α) → Session α
  | [] => s
  | operation :: operations => (s.perform operation).2.performAll operations

variable {s : Session α}

/-- A comparison, stopped or not, leaves all elements as they are. -/
theorem compare_elements (s : Session α) (threshold : α) (w : Watch)
    (students references : List Nat) :
    (s.compare threshold w students references).2.elements = s.elements := by
  cases h : w.firstStop 0 ElementKind.all with
  | some stop => rw [s.compare_of_some threshold students references h]
  | none => rw [s.compare_of_none threshold students references h]

/-- An operation that edits no element leaves all of them as they are. -/
theorem perform_elements {operation : Operation α} (h : ¬ operation.Edits) :
    (s.perform operation).2.elements = s.elements := by
  cases operation with
  | report summary => rfl
  | step step =>
    cases step with
    | edit x element => exact absurd trivial h
    -- The answer of a comparison is taken apart by the step; the session after it is the same.
    | compare threshold w students references =>
      rw [perform, Session.step, ← s.compare_elements threshold w students references]
      rcases s.compare threshold w students references with ⟨_ | _, after⟩ <;> rfl
    | _ => rfl

/-- So do several such operations. -/
theorem performAll_elements {operations : List (Operation α)}
    (h : ∀ operation ∈ operations, ¬ operation.Edits) :
    (s.performAll operations).elements = s.elements := by
  induction operations generalizing s with
  | nil => rfl
  | cons operation operations ih =>
    rw [performAll, ih fun next hnext => h next (List.mem_cons_of_mem _ hnext),
      perform_elements (h operation List.mem_cons_self)]

end Session

/-! ## The answer of a comparison -/

/-- What is answered when this is found: the first stop, where there is one. -/
def Watch.answer {γ : Type} (w : Watch) (found : γ) : Except Stop γ :=
  match w.firstStop 0 ElementKind.all with
  | some stop => .error stop
  | none => .ok found

/-- A watch that stops a comparison at no checkpoint lets its answer through. -/
theorem Watch.answer_of_none {γ : Type} {w : Watch} (h : w.firstStop 0 ElementKind.all = none)
    (found : γ) : w.answer found = .ok found := by
  rw [answer, h]

namespace Session

variable [ScoreNumber α] {s s' : Session α} (threshold : α)

/-- The answer of a comparison is its summary, unless it is stopped. -/
theorem compare_answer (s : Session α) (w : Watch) (students references : List Nat) :
    (s.compare threshold w students references).1 =
      w.answer ((s.matcher threshold).summarize students references) := by
  rw [Watch.answer]
  cases h : w.firstStop 0 ElementKind.all with
  | some stop => rw [s.compare_of_some threshold students references h]
  | none => rw [s.compare_of_none threshold students references h]

/-- Sessions with the same elements are matched in the same way, whatever is known about them. -/
theorem matcher_congr (h : s.elements = s'.elements) :
    s.matcher threshold = s'.matcher threshold := by
  have hview : s.view = s'.view := funext fun x => by rw [view, view, h]
  rw [matcher, matcher, hview]

/-- Earlier operations are not seen by a comparison. -/
theorem compare_performAll (s : Session α) {operations : List (Operation α)}
    (h : ∀ operation ∈ operations, ¬ operation.Edits) (w : Watch)
    (students references : List Nat) :
    ((s.performAll operations).compare threshold w students references).1 =
      (s.compare threshold w students references).1 := by
  rw [compare_answer, compare_answer, matcher_congr threshold (performAll_elements h)]

end Session

/-! ## Two sessions -/

/-- An element of one session and one of another that have the same content. -/
structure Twin (s s' : Session α) where
  left : Nat
  right : Nat
  same : (s.view left).SameContent (s'.view right)

namespace Twin

variable [ScoreNumber α] {s s' : Session α} (threshold : α)

/-- The matcher that works on twins, by what they are in the first session. -/
def matcher (s s' : Session α) (threshold : α) : Matcher α (Twin s s') :=
  ⟨fun x => s.view x.left, Weights.default.score, threshold⟩

/-- The matcher on both positions of a twin, read on the left, is the one of the first session. -/
theorem renames_left :
    (matcher s s' threshold).Renames Twin.left (s.matcher threshold) where
  threshold := rfl
  agrees _ _ := rfl
  score _ _ := rfl
  kind _ := rfl
  signature _ := rfl

/-- The matcher on both positions of a twin, read on the right, is the one of the second session. -/
theorem renames_right :
    (matcher s s' threshold).Renames Twin.right (s'.matcher threshold) where
  threshold := rfl
  agrees x y := (x.same.agrees y.same).symm
  score x y := (x.same.score Weights.default y.same).symm
  kind x := x.same.kind.symm
  signature x := x.same.signature.symm

end Twin

namespace Session

variable [ScoreNumber α]

/-- On elements of the same content two comparisons find the same: one summary of twins says what is
found on either side. -/
theorem compare_twins (s s' : Session α) (threshold : α) (students references : List (Twin s s')) :
    ∃ found : Summary α (Twin s s'), ∀ w : Watch,
      (s.compare threshold w (students.map Twin.left) (references.map Twin.left)).1 =
          w.answer (found.map Twin.left) ∧
        (s'.compare threshold w (students.map Twin.right) (references.map Twin.right)).1 =
          w.answer (found.map Twin.right) := by
  refine ⟨(Twin.matcher s s' threshold).summarize students references, fun w => ⟨?_, ?_⟩⟩
  · rw [compare_answer, (Twin.renames_left threshold).summarize]
  · rw [compare_answer, (Twin.renames_right threshold).summarize]

end Session

/-! ## The same comparison again -/

namespace Outcomes

variable [DecidableEq β] [ScoreNumber α] {r : PassResult α β} {x : β}

/-- What is written to the elements of a result does not depend on what stood there. -/
theorem classify_congr (o o' : Outcomes α β)
    (hx : x ∈ r.references ∨ x ∈ r.students ∨ ∃ p ∈ r.pairings, p.Holds x) :
    o.classify r x = o'.classify r x := by
  rw [classify_apply, classify_apply]
  split_ifs with hreference hstudent
  · rfl
  · rfl
  -- The last pair that holds the element overwrites whatever stood there.
  · obtain ⟨p, hp⟩ := Pairing.exists_isLast ((hx.resolve_left hreference).resolve_left hstudent)
    rw [foldl_setPairing_of_isLast hp, foldl_setPairing_of_isLast hp]

/-- Writing a result twice is writing it once. -/
theorem classify_classify (o : Outcomes α β) (r : PassResult α β) :
    (o.classify r).classify r = o.classify r := by
  funext x
  by_cases hx : x ∈ r.references ∨ x ∈ r.students ∨ ∃ p ∈ r.pairings, p.Holds x
  · exact classify_congr (o.classify r) o hx
  · simp only [not_or, not_exists, not_and] at hx
    exact ((o.classify r).classify_written r).unlisted x hx.1 hx.2.1 hx.2.2

end Outcomes

namespace Session

variable [ScoreNumber α] {s s' : Session α} {threshold : α} {w w' : Watch}
  {students references : List Nat} {summary : Summary α Nat}

/-- A comparison that is made once more right away, stopped or not, changes nothing. -/
theorem compare_again (h : s.compare threshold w students references = (.ok summary, s'))
    (w' : Watch) : s'.compare threshold w' students references = (w'.answer summary, s') := by
  obtain ⟨-, rfl, rfl⟩ := compare_eq_ok.1 h
  -- Outcomes were written in between, which the matcher does not see.
  have hmatcher : ∀ o, ({ s with outcomes := o } : Session α).matcher threshold =
      s.matcher threshold := fun o => matcher_congr threshold rfl
  refine Prod.ext (by rw [compare_answer, hmatcher]) ?_
  cases hstop : w'.firstStop 0 ElementKind.all with
  | some stop => rw [compare_of_some _ threshold students references hstop]
  | none =>
    rw [compare_of_none _ threshold students references hstop, hmatcher,
      Outcomes.classify_classify]

/-- A comparison that is made once more later leaves on its elements what it has left before. -/
theorem compare_outcomes_again (h : s.compare threshold w students references = (.ok summary, s'))
    {operations : List (Operation α)} (hoperations : ∀ operation ∈ operations, ¬ operation.Edits)
    (hw' : w'.firstStop 0 ElementKind.all = none) {x : Nat} (hx : x ∈ students ++ references) :
    ((s'.performAll operations).compare threshold w' students references).2.outcomes x =
      s'.outcomes x := by
  obtain ⟨-, rfl, rfl⟩ := compare_eq_ok.1 h
  rw [compare_of_none _ threshold students references hw',
    matcher_congr threshold (performAll_elements hoperations)]
  exact Outcomes.classify_congr _ _ ((s.matcher threshold).mem_summarize_result hx)

/-- A comparison is decided by the content of the elements that it is given. On elements of the same
content it finds the same in any two sessions, whatever has happened in them; earlier operations
that edit no element make no difference; and made once more, right away or later, it gives the same
summary and leaves the same outcomes. -/
theorem compare_forgets (s s' : Session α) (history : List (Operation α)) (threshold : α) :
    (∀ students references : List (Twin (s.performAll history) s'),
      ∃ found : Summary α (Twin (s.performAll history) s'), ∀ w : Watch,
        ((s.performAll history).compare threshold w (students.map Twin.left)
            (references.map Twin.left)).1 = w.answer (found.map Twin.left) ∧
          (s'.compare threshold w (students.map Twin.right) (references.map Twin.right)).1 =
            w.answer (found.map Twin.right)) ∧
      ((∀ operation ∈ history, ¬ operation.Edits) →
        ∀ (w : Watch) (students references : List Nat),
          ((s.performAll history).compare threshold w students references).1 =
            (s.compare threshold w students references).1) ∧
      ∀ (w : Watch) (students references : List Nat) (summary : Summary α Nat) (after : Session α),
        s.compare threshold w students references = (.ok summary, after) → ∀ w' : Watch,
          after.compare threshold w' students references = (w'.answer summary, after) ∧
            ((∀ operation ∈ history, ¬ operation.Edits) →
              w'.firstStop 0 ElementKind.all = none →
                ∃ last, (after.performAll history).compare threshold w' students references =
                    (.ok summary, last) ∧
                  ∀ x ∈ students ++ references, last.outcomes x = after.outcomes x) := by
  refine ⟨compare_twins (s.performAll history) s' threshold,
    s.compare_performAll threshold, fun w students references summary after h w' =>
      ⟨compare_again h w', fun hhistory hw' => ⟨_, Prod.ext ?_ rfl, fun x hx => ?_⟩⟩⟩
  · rw [compare_performAll threshold after hhistory, compare_again h w', Watch.answer_of_none hw']
  · exact compare_outcomes_again h hhistory hw' hx

/-- The elements of `Matcher.samplePool` from other files and in another order; the two methods that
look the same are one here. -/
def otherPool : Session Float :=
  fresh #[⟨some "n", .field, some "int n", some "", 40, "Other.java", "other"⟩,
    ⟨some "size", .method, some "int size()", some "", 8, "Other.java", "other"⟩,
    ⟨some "sizes", .method, some "int sizes()", some "", 3, "", "other"⟩,
    ⟨some "sizesof", .method, some "int sizesof()", some "", 1, "Third.java", ""⟩]

/-- After a comparison, a mark set by hand, a score and a report, the elements are paired as in a
session in which nothing has happened, and once more as in the beginning. -/
theorem compare_forgets_samplePool :
    let first := (Matcher.samplePool.matcher 0.7).summarize [0, 4, 0, 2] [1, 3, 4]
    let history : List (Operation Float) := [.step (.compare 0.7 {} [4] []),
      .step (.markMatched 0 0.25), .step (.score 0 3), .report first]
    let s := Matcher.samplePool.performAll history
    let after := (Matcher.samplePool.compare 0.7 {} [0, 4, 0, 2] [1, 3, 4]).2
    (s.outcomes 4).matchType = some .extra ∧ (otherPool.outcomes 0).matchType = none ∧
      (∃ found : Summary Float (Twin s otherPool),
        (s.compare 0.7 {} [0, 4, 0, 2] [1, 3, 4]).1 = .ok (found.map Twin.left) ∧
          (otherPool.compare 0.7 {} [1, 0, 1, 2] [1, 3, 0]).1 = .ok (found.map Twin.right)) ∧
      (s.compare 0.7 {} [0, 4, 0, 2] [1, 3, 4]).1 = .ok first ∧
      first.pairings.map (fun p => (p.student, p.reference)) = [(4, 4), (0, 1), (0, 3)] ∧
      (after.compare 0.7 {} [0, 4, 0, 2] [1, 3, 4]) = (.ok first, after) ∧
      ((after.performAll history).outcomes 0).matchType = some .similar ∧
      ∃ last, (after.performAll history).compare 0.7 {} [0, 4, 0, 2] [1, 3, 4] =
        (.ok first, last) ∧ last.outcomes 4 = after.outcomes 4 := by
  intro first history s after
  obtain ⟨htwins, hbefore, hagain⟩ :=
    compare_forgets Matcher.samplePool otherPool history (0.7 : Float)
  have hhistory : ∀ operation ∈ history, ¬ operation.Edits := by simp [history, Operation.Edits]
  have hpass : ({} : Watch).firstStop 0 ElementKind.all = none := rfl
  obtain ⟨found, hfound⟩ := htwins
    [⟨0, 1, by decide +kernel⟩, ⟨4, 0, by decide +kernel⟩, ⟨0, 1, by decide +kernel⟩,
      ⟨2, 2, by decide +kernel⟩]
    [⟨1, 1, by decide +kernel⟩, ⟨3, 3, by decide +kernel⟩, ⟨4, 0, by decide +kernel⟩]
  have hfirst : Matcher.samplePool.compare 0.7 {} [0, 4, 0, 2] [1, 3, 4] = (.ok first, after) := rfl
  obtain ⟨hrepeat, hlater⟩ := hagain {} [0, 4, 0, 2] [1, 3, 4] first after hfirst {}
  obtain ⟨last, hlast, houtcomes⟩ := hlater hhistory hpass
  refine ⟨by decide +kernel, by decide +kernel, ⟨found, hfound {}⟩, ?_, by decide +kernel, hrepeat,
    by decide +kernel, last, hlast, houtcomes 4 (by decide)⟩
  rw [hbefore hhistory, hfirst]

end Session

end StructureGrader
