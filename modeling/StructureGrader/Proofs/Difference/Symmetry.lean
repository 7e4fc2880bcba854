import StructureGrader.Difference
import StructureGrader.Proofs.Similarity.TextSimilarity
import Mathlib.Data.List.Nodup

/-!
# The remarks as a relation between two signatures

Every test of an explanation asks whether something differs, so the remarks do not depend on which of
the two signatures comes first (`explain_comm`), and each kind of element has its tests listed once
(`explain_nodup`). Elements of none of the known kinds are told apart by the share of characters to edit
alone: the two remarks are made where that share is above a fifth and above a half
(`explain_unknown`). `explain_symmetric` says this for kinds as they are given, by a word in whatever
letters or not at all.
-/

namespace StructureGrader

open ScoreNumber

/-! ## Tests -/

/-- All remarks. -/
def Difference.all : List Difference :=
  [.oneMissing, .accessModifiers, .returnTypes, .parameters, .staticModifier, .fieldTypes,
    .finalModifier, .abstractModifier, .classOrInterface, .significant, .major]

/-- The list of all differences is complete. -/
theorem Difference.mem_all (d : Difference) : d ∈ all := by
  cases d <;> decide

/-- Different remarks have different wordings. -/
theorem Difference.text_injective : Function.Injective Difference.text := by
  have hnodup : (all.map text).Nodup := by decide +kernel
  exact fun d e h => List.inj_on_of_nodup_map hnodup d.mem_all e.mem_all h

/-- Tests for different differences give each of them at most once. -/
theorem remarksOf_nodup {tests : List (Bool × Difference)} (h : (tests.map Prod.snd).Nodup) :
    (remarksOf tests).Nodup :=
  h.sublist (List.filter_sublist.map _)

section Explain

variable {α : Type} [ScoreNumber α]

/-- It does not matter which of two signatures comes first. -/
theorem explainTexts_comm (kind : Option ElementKind) (a b : String) :
    explainTexts α kind a b = explainTexts α kind b a := by
  unfold explainTexts
  cases kind with
  | none =>
    dsimp only
    rw [textSimilarity_comm]
  | some kind => cases kind <;> simp only [bne_comm]

/-- No difference of two signatures is listed twice. -/
theorem explainTexts_nodup (kind : Option ElementKind) (a b : String) :
    (explainTexts α kind a b).Nodup := by
  unfold explainTexts
  refine remarksOf_nodup ?_
  cases kind with
  | none => simp
  | some kind => cases kind <;> simp

/-- There is nothing to explain about a signature and itself. -/
theorem explain_self (kind : Option ElementKind) (signature : Option String) :
    explain α kind signature signature = [] := by
  cases signature with
  | none => rfl
  | some text => rw [explain, if_pos (beq_self_eq_true text)]

/-- Two signatures that are not the same text are explained by their texts. -/
theorem explain_of_ne (kind : Option ElementKind) {a b : String} (h : a ≠ b) :
    explain α kind (some a) (some b) = explainTexts α kind a b := by
  rw [explain, if_neg (by simpa using h)]

/-- The remarks do not depend on which signature comes first. -/
theorem explain_comm (kind : Option ElementKind) (a b : Option String) :
    explain α kind a b = explain α kind b a := by
  rcases a with _ | a <;> rcases b with _ | b
  · rfl
  · rfl
  · rfl
  · by_cases h : a = b
    · rw [h]
    · rw [explain_of_ne kind h, explain_of_ne kind (Ne.symm h), explainTexts_comm]

/-- No remark is made twice. -/
theorem explain_nodup (kind : Option ElementKind) (a b : Option String) :
    (explain α kind a b).Nodup := by
  rcases a with _ | a <;> rcases b with _ | b
  · exact List.nodup_nil
  · exact List.nodup_singleton _
  · exact List.nodup_singleton _
  · by_cases h : a = b
    · rw [h, explain_self]
      exact List.nodup_nil
    · rw [explain_of_ne kind h]
      exact explainTexts_nodup kind a b

end Explain

/-! ## Elements of no known kind -/

section Unknown

variable {a b : String}

/-- The similarity is short of full by more than one part in `k` where `k` times the edits exceed
the characters. -/
theorem unclampedSimilarity_lt_iff (h : a ≠ b) {k : ℕ} (hk : 0 < k) :
    unclampedSimilarity a b < 1 - 1 / k ↔
      max a.length b.length < k * editDistance (Text.lower a) (Text.lower b) := by
  have hpos : (0 : Rat) < k := Nat.cast_pos.2 hk
  rw [unclampedSimilarity, sub_lt_sub_iff_left, div_lt_div_iff₀ hpos (size_pos h), one_mul,
    mul_comm, ← Nat.cast_mul, Nat.cast_lt]

/-- A similarity is below a bound above zero where it is so before negative values are cut off. -/
theorem textSimilarity_lt_iff {bound : Rat} (h : 0 < bound) :
    textSimilarity a b < bound ↔ unclampedSimilarity a b < bound := by
  rw [textSimilarity_eq_max, max_lt_iff, and_iff_right h]

/-- For elements of no known kind the differences follow from the edit distance alone. -/
theorem explain_unknown (h : a ≠ b) :
    explain Rat none (some a) (some b) = remarksOf
      [(decide (max a.length b.length < 5 * editDistance (Text.lower a) (Text.lower b)), .significant),
        (decide (max a.length b.length < 2 * editDistance (Text.lower a) (Text.lower b)), .major)] := by
  have hfifth : (decimal 8 1 : Rat) = 1 - 1 / (5 : ℕ) := by decide +kernel
  have hhalf : (decimal 5 1 : Rat) = 1 - 1 / (2 : ℕ) := by decide +kernel
  have hsignificant : textSimilarity a b < (decimal 8 1 : Rat) ↔
      max a.length b.length < 5 * editDistance (Text.lower a) (Text.lower b) := by
    rw [textSimilarity_lt_iff (by decide +kernel), hfifth, unclampedSimilarity_lt_iff h (by decide)]
  have hmajor : textSimilarity a b < (decimal 5 1 : Rat) ↔
      max a.length b.length < 2 * editDistance (Text.lower a) (Text.lower b) := by
    rw [textSimilarity_lt_iff (by decide +kernel), hhalf, unclampedSimilarity_lt_iff h (by decide)]
  rw [explain_of_ne none h, explainTexts]
  dsimp only
  rw [decide_eq_decide.2 hsignificant, decide_eq_decide.2 hmajor]

end Unknown

/-! ## Kinds as they are given -/

/-- What says of which kind the elements are. -/
inductive GivenKind
  | known (kind : ElementKind)
  /-- The name of a kind in whatever letters, or any other word. -/
  | word (text : String)
  | missing
deriving DecidableEq, Repr

namespace GivenKind

/-- The kind that is meant, if it is a known one. -/
def kind? : GivenKind → Option ElementKind
  | known kind => some kind
  | word text => kindNamed? text
  | missing => none

/-- None of the known kinds is meant. -/
def IsUnknown : GivenKind → Prop
  | known _ => False
  | word text => ∀ kind : ElementKind, Text.capitals text ≠ kind.name
  | missing => True

/-- A kind that is given stands for none of the known ones where it is unknown. -/
theorem kind?_eq_none {given : GivenKind} : given.kind? = none ↔ given.IsUnknown := by
  cases given with
  | known kind => exact iff_of_false (by simp [kind?]) id
  | word text =>
    rw [kind?, kindNamed?, ElementKind.ofName?, List.find?_eq_none]
    refine ⟨fun h kind heq => ?_, fun h kind _ heq => h kind (eq_of_beq heq).symm⟩
    exact h kind kind.mem_all (by rw [heq, beq_self_eq_true])
  | missing => exact iff_of_true rfl trivial

end GivenKind

/-- Whatever says of which kind the elements are, the remarks on two signatures are the same both
ways, no wording is repeated, and there is none where the signatures are the same. Where none of the
known kinds is meant, two different signatures get the first remark when there are more than a fifth
as many edits as characters, behind it the second one when there are more than half as many, and no
other. -/
theorem explain_symmetric {α : Type} [ScoreNumber α] (given : GivenKind) (a b : Option String) :
    explain α given.kind? a b = explain α given.kind? b a ∧
      ((explain α given.kind? a b).map Difference.text).Nodup ∧
      (a = b → explain α given.kind? a b = []) ∧
      (given.IsUnknown → ∀ s t : String, s ≠ t →
        let edits := editDistance (Text.lower s) (Text.lower t)
        let size := max s.length t.length
        (explain Rat given.kind? (some s) (some t)).map Difference.text =
          (if 5 * edits > size then ["Significant structural differences"] else []) ++
            if 2 * edits > size then ["Major differences in implementation"] else []) := by
  refine ⟨explain_comm _ a b, (explain_nodup _ a b).map Difference.text_injective, ?_, ?_⟩
  · rintro rfl
    exact explain_self _ a
  · intro hunknown s t hne edits size
    rw [GivenKind.kind?_eq_none.2 hunknown, explain_unknown hne]
    show (remarksOf [(decide (size < 5 * edits), .significant),
      (decide (size < 2 * edits), .major)]).map Difference.text = _
    by_cases hfifth : size < 5 * edits <;> by_cases hhalf : size < 2 * edits <;>
      simp [remarksOf, hfifth, hhalf, Difference.text]

/-- Two thirds of the characters of the first pair are edited, a quarter of the second pair. -/
theorem explain_symmetric_enum :
    (GivenKind.word "enum").IsUnknown ∧
      (explain Rat (GivenKind.word "enum").kind? (some "abc") (some "AXY")).map Difference.text =
        ["Significant structural differences", "Major differences in implementation"] ∧
      (explain Rat (GivenKind.word "enum").kind? (some "abcd") (some "abc")).map Difference.text =
        ["Significant structural differences"] ∧
      explain Rat (GivenKind.word "Method").kind? (some "int f()") (some "int f()") = [] := by
  have hunknown : (GivenKind.word "enum").IsUnknown := by
    intro kind
    cases kind <;> decide +kernel
  obtain ⟨-, -, -, hedits⟩ := explain_symmetric (α := Rat) (.word "enum") none none
  obtain ⟨-, -, hsame, -⟩ :=
    explain_symmetric (α := Rat) (.word "Method") (some "int f()") (some "int f()")
  refine ⟨hunknown, ?_, ?_, hsame rfl⟩
  · rw [hedits hunknown "abc" "AXY" (by decide)]
    decide +kernel
  · rw [hedits hunknown "abcd" "abc" (by decide)]
    decide +kernel

end StructureGrader
