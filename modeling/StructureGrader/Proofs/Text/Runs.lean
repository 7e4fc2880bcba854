import StructureGrader.Text.Blank
import Mathlib.Data.List.Basic

/-!
# Runs of blanks

A run of blanks becomes one space wherever it stands (`collapseFrom_blanks`), and no run goes on behind
another character (`collapseFrom_append_cons`). So where two texts are put together, blanks in between
add one space, or nothing where a blank stands there already (`collapseChars_insert`).
-/

namespace StructureGrader.Text

variable {c : Char} {w xs ys : List Char}

/-- A blank is written as one space where a run starts, and any other character as it is. -/
theorem collapseFrom_cons (inRun : Bool) (c : Char) (xs : List Char) :
    collapseFrom inRun (c :: xs) =
      if isBlank c then if inRun then collapseFrom true xs else ' ' :: collapseFrom true xs
      else c :: collapseFrom false xs :=
  rfl

/-- Texts that collapse alike do so behind any text. -/
theorem collapseFrom_append_congr {xs ys : List Char}
    (h : ∀ inRun, collapseFrom inRun xs = collapseFrom inRun ys) (w : List Char) (inRun : Bool) :
    collapseFrom inRun (w ++ xs) = collapseFrom inRun (w ++ ys) := by
  induction w generalizing inRun with
  | nil => exact h inRun
  | cons c w ih => rw [List.cons_append, List.cons_append, collapseFrom_cons, collapseFrom_cons, ih, ih]

/-- A run of blanks becomes one space, or nothing when a blank stands before it. -/
theorem collapseFrom_blanks {w : List Char} (hne : w ≠ []) (hblank : ∀ c ∈ w, isBlank c = true)
    (xs : List Char) (inRun : Bool) :
    collapseFrom inRun (w ++ xs) =
      if inRun then collapseFrom true xs else ' ' :: collapseFrom true xs := by
  induction w generalizing inRun with
  | nil => exact absurd rfl hne
  | cons c w ih =>
    have hmore : collapseFrom true (w ++ xs) = collapseFrom true xs := by
      cases w with
      | nil => rfl
      | cons d w =>
        exact ih (List.cons_ne_nil d w) (fun e he => hblank e (List.mem_cons_of_mem c he)) true
    rw [List.cons_append, collapseFrom_cons, if_pos (hblank c List.mem_cons_self), hmore]

/-- Behind a character that is not blank no run goes on. -/
theorem collapseFrom_append_cons {c : Char} (hc : isBlank c = false) (xs ys : List Char)
    (inRun : Bool) :
    collapseFrom inRun (xs ++ c :: ys) = collapseFrom inRun xs ++ c :: collapseFrom false ys := by
  induction xs generalizing inRun with
  | nil => exact if_neg (Bool.eq_false_iff.1 hc)
  | cons x xs ih =>
    rw [List.cons_append, collapseFrom_cons, collapseFrom_cons, ih, ih]
    split_ifs <;> rfl

/-- A text without blanks is not collapsed. -/
theorem collapseFrom_of_solid {xs : List Char} (h : ∀ c ∈ xs, isBlank c = false) (inRun : Bool) :
    collapseFrom inRun xs = xs := by
  induction xs generalizing inRun with
  | nil => rfl
  | cons x xs ih =>
    rw [collapseFrom_cons, if_neg (Bool.eq_false_iff.1 (h x List.mem_cons_self)),
      ih fun c hc => h c (List.mem_cons_of_mem x hc)]

/-- A character of a collapsed text is a space or one of the text. -/
theorem mem_collapseFrom {c : Char} {xs : List Char} {inRun : Bool}
    (h : c ∈ collapseFrom inRun xs) : c = ' ' ∨ c ∈ xs := by
  induction xs generalizing inRun with
  | nil => exact .inr h
  | cons x xs ih =>
    rw [collapseFrom_cons] at h
    split_ifs at h
    · exact (ih h).imp_right (List.mem_cons_of_mem x)
    · rcases List.mem_cons.1 h with rfl | h
      · exact .inl rfl
      · exact (ih h).imp_right (List.mem_cons_of_mem x)
    · rcases List.mem_cons.1 h with rfl | h
      · exact .inr List.mem_cons_self
      · exact (ih h).imp_right (List.mem_cons_of_mem x)

/-- Whether a blank stands right before what follows; `inRun` says so of the text in front. -/
def endsBlank (inRun : Bool) : List Char → Bool
  | [] => inRun
  | c :: cs => endsBlank (isBlank c) cs

/-- A text is collapsed piece by piece, each piece by what stands right before it. -/
theorem collapseFrom_append (xs ys : List Char) (inRun : Bool) :
    collapseFrom inRun (xs ++ ys) =
      collapseFrom inRun xs ++ collapseFrom (endsBlank inRun xs) ys := by
  induction xs generalizing inRun with
  | nil => rfl
  | cons x xs ih =>
    rw [List.cons_append, collapseFrom_cons, collapseFrom_cons, ih, ih, endsBlank]
    cases isBlank x <;> cases inRun <;> rfl

/-- Whether a blank stands right before what follows is decided by the last character. -/
theorem endsBlank_concat (inRun : Bool) (xs : List Char) (c : Char) :
    endsBlank inRun (xs ++ [c]) = isBlank c := by
  induction xs generalizing inRun with
  | nil => rfl
  | cons x xs ih => exact ih (isBlank x)

/-- A text that does not start with a blank is not touched by a run in front of it. -/
theorem collapseFrom_of_head (h : ys.head?.any isBlank = false) (inRun : Bool) :
    collapseFrom inRun ys = collapseChars ys := by
  cases ys with
  | nil => rfl
  | cons y ys =>
    have hy : isBlank y = false := h
    rw [collapseChars, collapseFrom_cons, collapseFrom_cons, hy, if_neg Bool.false_ne_true,
      if_neg Bool.false_ne_true]

/-- Next to a blank more blanks do not show. -/
theorem collapseChars_insert_of_blank (hblank : ∀ c ∈ w, isBlank c = true)
    (h : endsBlank false xs = true ∨ ys.head?.any isBlank = true) :
    collapseChars (xs ++ (w ++ ys)) = collapseChars (xs ++ ys) := by
  by_cases hne : w = []
  · rw [hne, List.nil_append]
  unfold collapseChars
  rw [collapseFrom_append xs (w ++ ys), collapseFrom_append xs ys, collapseFrom_blanks hne hblank]
  congr 1
  cases hends : endsBlank false xs with
  | true => exact if_pos rfl
  | false =>
    -- The blank that stands first in what follows is the start of the run.
    rw [hends, Bool.false_eq_true, false_or] at h
    cases ys with
    | nil => cases h
    | cons y ys =>
      have hy : isBlank y = true := h
      rw [collapseFrom_cons, collapseFrom_cons, if_pos hy, if_pos hy]
      rfl

/-- Where no blank is, a run of blanks adds one space. -/
theorem collapseChars_insert (hne : w ≠ []) (hblank : ∀ c ∈ w, isBlank c = true)
    (hxs : endsBlank false xs = false) (hys : ys.head?.any isBlank = false) :
    collapseChars (xs ++ (w ++ ys)) = collapseChars xs ++ ' ' :: collapseChars ys ∧
      collapseChars (xs ++ ys) = collapseChars xs ++ collapseChars ys := by
  have hplain := collapseFrom_of_head hys
  constructor
  · rw [collapseChars, collapseFrom_append xs (w ++ ys), collapseFrom_blanks hne hblank, hxs,
      if_neg Bool.false_ne_true, hplain true]
    rfl
  · rw [collapseChars, collapseFrom_append, hplain]
    rfl

end StructureGrader.Text
