import StructureGrader.Proofs.Difference.Rendered
import StructureGrader.Proofs.Matching.Conservation

/-!
# Pairs without a remark

The explanation looks at a few parts of a signature, and at other ones for each kind of element
(`SignatureText.Alike`). A pair has no remark where these parts are the same, whatever else is in
the two texts: neither is the name looked at, nor whether a method is final, nor what a class
extends. So no remark does not mean the same signature (`Matcher.compare_unexplained_explainedPool`). It does
for rendered signatures of plain headers that are the same in the parts that nobody looks at
(`DifferWhereSeen`), since the other parts can be read off the text.
-/

namespace StructureGrader

open Text

variable {α β : Type}

namespace SignatureText

/-! ## Signatures that look the same -/

/-- Two signatures of elements of a kind are the same wherever the explanation looks. -/
def Alike : ElementKind → String → String → Prop
  | .method, a, b =>
    access a = access b ∧ returnType a = returnType b ∧ parameters a = parameters b ∧
      contains a "static" = contains b "static"
  | .field, a, b =>
    access a = access b ∧ fieldType a = fieldType b ∧
      contains a "static" = contains b "static" ∧ contains a "final" = contains b "final"
  | .type, a, b =>
    access a = access b ∧ contains a "abstract" = contains b "abstract" ∧
      contains a "final" = contains b "final" ∧ contains a "interface" = contains b "interface"
  | .constructor, a, b => access a = access b ∧ parameters a = parameters b

/-- Two signatures are both missing, or both are there and look the same. -/
def AlikeOrMissing (kind : ElementKind) : Option String → Option String → Prop
  | some a, some b => Alike kind a b
  | none, none => True
  | _, _ => False

/-- A signature is like itself wherever the explainer looks. -/
theorem Alike.refl (kind : ElementKind) (s : String) : Alike kind s s := by
  cases kind <;> simp [Alike]

/-- A signature that may be missing is like itself wherever the explainer looks. -/
theorem AlikeOrMissing.refl (kind : ElementKind) (s : Option String) : AlikeOrMissing kind s s := by
  cases s with
  | none => trivial
  | some s => exact Alike.refl kind s

end SignatureText

open SignatureText

/-- There is no remark where no test says that the signatures differ. -/
theorem remarksOf_eq_nil {tests : List (Bool × Difference)} :
    remarksOf tests = [] ↔ ∀ t ∈ tests, t.1 = false := by
  simp [remarksOf]

section Explain

variable [ScoreNumber α]

/-- The explainer has nothing to say of two signatures where they are alike wherever it looks. -/
theorem explainTexts_eq_nil (kind : ElementKind) (a b : String) :
    explainTexts α (some kind) a b = [] ↔ Alike kind a b := by
  cases kind <;> simp [explainTexts, remarksOf_eq_nil, Alike]

/-- There is no remark where the signatures look the same or are both missing. -/
theorem explain_eq_nil (kind : ElementKind) (a b : Option String) :
    explain α (some kind) a b = [] ↔ AlikeOrMissing kind a b := by
  rcases a with _ | a <;> rcases b with _ | b
  · exact iff_of_true rfl trivial
  · exact iff_of_false (List.cons_ne_nil _ _) id
  · exact iff_of_false (List.cons_ne_nil _ _) id
  · rw [explain_texts, explainTexts_eq_nil]
    rfl

end Explain

/-! ## Rendered signatures that look the same -/

/-- Different access modifiers are shown by different words. -/
theorem shownAccess_inj {a b : Option Access} : shownAccess a = shownAccess b ↔ a = b := by
  rw [← bne_eq_false_iff_eq, shownAccess_bne, bne_eq_false_iff_eq]

/-- Two signatures of a kind are rendered from plain headers that are the same in all parts at which
the explanation does not look. -/
inductive DifferWhereSeen : ElementKind → String → String → Prop
  | method {a b : MethodHeader} (ha : a.Plain) (hb : b.Plain) (hname : a.name = b.name)
      (habstract : a.isAbstract = b.isAbstract) (hfinal : a.isFinal = b.isFinal) :
      DifferWhereSeen .method a.render b.render
  | field {a b : FieldHeader} (ha : a.Plain) (hb : b.Plain) (hname : a.name = b.name) :
      DifferWhereSeen .field a.render b.render
  | constructor {a b : ConstructorHeader} (ha : a.Plain) (hb : b.Plain) (hname : a.name = b.name) :
      DifferWhereSeen .constructor a.render b.render
  | type {a b : TypeHeader} (ha : a.Plain) (hb : b.Plain) (hname : a.name = b.name)
      (htypeParameters : a.typeParameters = b.typeParameters)
      (hextended : a.extended = b.extended) (himplemented : a.implemented = b.implemented) :
      DifferWhereSeen .type a.render b.render

/-- Such signatures are the same where they look the same. -/
theorem DifferWhereSeen.eq_of_alike {kind : ElementKind} {x y : String}
    (h : DifferWhereSeen kind x y) (halike : Alike kind x y) : x = y := by
  -- What looks the same in the texts is the same in the headers, and so is the rest, by the case.
  cases h with
  | method ha hb hname habstract hfinal =>
    obtain ⟨haccess, htype, hparameters, hstatic⟩ := halike
    rw [ha.access_render, hb.access_render, shownAccess_inj] at haccess
    rw [ha.returnType_render, hb.returnType_render] at htype
    rw [ha.parameters_render, hb.parameters_render, parameterText, parameterText] at hparameters
    rw [ha.static_render, hb.static_render] at hstatic
    simp only [MethodHeader.render, parameterList, haccess, hstatic, habstract, hfinal, htype,
      hname, hparameters]
  | field ha hb hname =>
    obtain ⟨haccess, htype, hstatic, hfinal⟩ := halike
    rw [ha.access_render, hb.access_render, shownAccess_inj] at haccess
    rw [ha.fieldType_render, hb.fieldType_render] at htype
    rw [ha.static_render, hb.static_render] at hstatic
    rw [ha.final_render, hb.final_render] at hfinal
    simp only [FieldHeader.render, haccess, hstatic, hfinal, htype, hname]
  | constructor ha hb hname =>
    obtain ⟨haccess, hparameters⟩ := halike
    rw [ha.access_render, hb.access_render, shownAccess_inj] at haccess
    rw [ha.parameters_render, hb.parameters_render, parameterText, parameterText] at hparameters
    simp only [ConstructorHeader.render, parameterList, haccess, hname, hparameters]
  | type ha hb hname htypeParameters hextended himplemented =>
    obtain ⟨haccess, habstract, hfinal, hinterface⟩ := halike
    rw [ha.access_render, hb.access_render, shownAccess_inj] at haccess
    rw [ha.abstract_render, hb.abstract_render] at habstract
    rw [ha.final_render, hb.final_render] at hfinal
    rw [ha.interface_render, hb.interface_render] at hinterface
    simp only [TypeHeader.render_eq, TypeHeader.flags, TypeHeader.body, haccess, habstract, hfinal,
      hinterface, hname, htypeParameters, hextended, himplemented]

/-! ## Pairs -/

namespace Matcher

variable [ScoreNumber α]

/-- The remarks on a pair of a comparison are the explanation of its two signatures. -/
theorem differences_of_mem_summarize {m : Matcher α β} {students references : List β}
    {p : Pairing α β} (hp : p ∈ (m.summarize students references).pairings) :
    p.differences = explain α (some (m.view p.student).kind) (m.view p.student).signature
      (m.view p.reference).signature := by
  obtain ⟨kind, hkind⟩ := mem_summarize.1 hp
  exact differences_of_mem_run hkind

/-- A pair of a comparison has no remark where its signatures are the same, and in general where
they look the same or are both missing. Between signatures that differ only in what is looked at, no
remark means the same signature. -/
theorem compare_explained (m : Matcher α β) (w : Watch) (students references : List β)
    (s : Summary α β) (h : m.compare w students references = .ok s) (p : Pairing α β)
    (hp : p ∈ s.pairings) :
    ((m.view p.student).signature = (m.view p.reference).signature → p.differences = []) ∧
      (p.differences = [] ↔ AlikeOrMissing (m.view p.student).kind (m.view p.student).signature
        (m.view p.reference).signature) ∧
      ∀ x y, (m.view p.student).signature = some x → (m.view p.reference).signature = some y →
        DifferWhereSeen (m.view p.student).kind x y → (p.differences = [] ↔ x = y) := by
  obtain ⟨-, rfl⟩ := compare_eq_ok.1 h
  have hnone : p.differences = [] ↔ AlikeOrMissing (m.view p.student).kind
      (m.view p.student).signature (m.view p.reference).signature := by
    rw [differences_of_mem_summarize hp, explain_eq_nil]
  refine ⟨fun heq => ?_, hnone, fun x y hx hy hseen => ?_⟩
  · rw [hnone, heq]
    exact AlikeOrMissing.refl _ _
  · rw [hnone, hx, hy]
    refine ⟨fun halike => hseen.eq_of_alike halike, ?_⟩
    rintro rfl
    exact Alike.refl _ x

/-- A pool of methods and fields, of which some differ where nobody looks. -/
def explainedPool : Session Float :=
  .fresh #[⟨some "size", .method, some "int size()", some "", 1, "", ""⟩,
    ⟨some "size", .method, some "final long size()", some "", 2, "", ""⟩,
    ⟨some "sizes", .method, some "int sizes()", some "", 3, "", ""⟩,
    ⟨some "n", .field, some "int n", some "", 4, "", ""⟩,
    ⟨some "n", .field, some "final int n", some "", 5, "", ""⟩]

/-- Of the final method only the return type is remarked on, of the final field that it is final. -/
theorem compare_explained_explainedPool :
    let m := explainedPool.matcher 0.7
    let s := m.summarize [0, 3] [1, 4]
    s.pairings.map (fun p => (p.student, p.reference, p.differences)) =
        [(3, 4, [.finalModifier]), (0, 1, [.returnTypes])] ∧
      (∀ p ∈ s.pairings, ¬ AlikeOrMissing (m.view p.student).kind (m.view p.student).signature
        (m.view p.reference).signature) ∧
      ∀ p ∈ s.pairings, p.student = 3 → (p.differences = [] ↔ "int n" = "final int n") := by
  intro m s
  have hs : m.compare {} [0, 3] [1, 4] = .ok s := rfl
  have hseen : DifferWhereSeen .field "int n" "final int n" := by
    have hn : FieldHeader.render ⟨none, false, false, "int", "n"⟩ = "int n" := by decide +kernel
    have hfinal : FieldHeader.render ⟨none, false, true, "int", "n"⟩ = "final int n" := by
      decide +kernel
    rw [← hn, ← hfinal]
    exact .field ⟨by decide +kernel, by decide +kernel⟩ ⟨by decide +kernel, by decide +kernel⟩ rfl
  have hsides : ∀ p ∈ s.pairings, p.differences ≠ [] ∧ (p.student = 3 → p.reference = 4) := by
    decide +kernel
  refine ⟨by decide +kernel, fun p hp halike => ?_, fun p hp hstudent => ?_⟩
  · obtain ⟨-, hnone, -⟩ := compare_explained m {} [0, 3] [1, 4] s hs p hp
    exact (hsides p hp).1 (hnone.2 halike)
  · obtain ⟨-, -, hrendered⟩ := compare_explained m {} [0, 3] [1, 4] s hs p hp
    rw [hstudent, (hsides p hp).2 hstudent] at hrendered
    exact hrendered _ _ rfl rfl hseen

/-- Two methods with other names are paired without a remark, although their signatures differ. -/
theorem compare_unexplained_explainedPool :
    let m := explainedPool.matcher 0.7
    let s := m.summarize [0] [2]
    m.compare {} [0] [2] = .ok s ∧ ¬ ∀ p ∈ s.pairings,
      (p.differences = [] ↔ (m.view p.student).signature = (m.view p.reference).signature) := by
  intro m s
  exact ⟨rfl, by decide +kernel⟩

end Matcher

end StructureGrader
