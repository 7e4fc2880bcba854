import StructureGrader.Matching
import StructureGrader.Proofs.Number.Order
import Mathlib.Data.List.Basic

/-!
# Taking one element out of a list

What `takeFirst` and `takeBest` take, what they leave, and when there is nothing to take. Both take
an element at one place and keep all others in order (`takeFirst_split`, `takeBest_split`). The best
element is above the bar and none is above it (`takeBest_bar_lt`, `takeBest_max`); of several it is
the first (`takeBest_first`).

Both choices are consistent: what is taken from a list is also taken from every part of the list in
which it is left (`takeFirst_sublist`, `takeBest_sublist`). This is what compares two runs of a pass
on pools of which one contains the other.
-/

namespace StructureGrader

open ScoreNumber ScoreOrder

variable {α β : Type}

/-! ## The first element that passes a test -/

section First

variable {p : β → Bool} {r y : β} {rs rest xs ys : List β}

/-- Something is taken from a nonempty list when its head is taken or something from its tail. -/
theorem takeFirst_cons : takeFirst p (y :: ys) = some (r, rest) ↔
    (p y = true ∧ y = r ∧ ys = rest) ∨
      (p y = false ∧ ∃ left, takeFirst p ys = some (r, left) ∧ y :: left = rest) := by
  by_cases hy : p y <;> simp [takeFirst, hy]

/-- No candidate is taken where none fits. -/
theorem takeFirst_eq_none : takeFirst p rs = none ↔ ∀ x ∈ rs, p x = false := by
  induction rs with
  | nil => simp [takeFirst]
  | cons y ys ih => by_cases hy : p y <;> simp [takeFirst, hy, ih]

/-- The element taken passes the test, and none before it does. -/
theorem takeFirst_split (h : takeFirst p rs = some (r, rest)) :
    ∃ front back, rs = front ++ r :: back ∧ rest = front ++ back ∧ p r = true ∧
      ∀ x ∈ front, p x = false := by
  induction rs generalizing rest with
  | nil => cases h
  | cons y ys ih =>
    rcases takeFirst_cons.1 h with ⟨hy, rfl, rfl⟩ | ⟨hy, left, hys, rfl⟩
    · exact ⟨[], ys, rfl, rfl, hy, by simp⟩
    · obtain ⟨front, back, rfl, rfl, hr, hfront⟩ := ih hys
      exact ⟨y :: front, back, rfl, rfl, hr, by simpa [hy] using hfront⟩

/-- The choice of the first element is consistent. -/
theorem takeFirst_sublist (hsub : xs.Sublist ys) (h : takeFirst p ys = some (r, rest)) :
    xs.Sublist rest ∨ ∃ left, takeFirst p xs = some (r, left) ∧ left.Sublist rest := by
  induction hsub generalizing rest with
  | slnil => cases h
  | @cons xs ys y hsub ih =>
    rcases takeFirst_cons.1 h with ⟨-, rfl, rfl⟩ | ⟨-, rest, hys, rfl⟩
    · exact Or.inl hsub
    · rcases ih hys with hxs | ⟨left, hx, hleft⟩
      · exact Or.inl (hxs.cons y)
      · exact Or.inr ⟨left, hx, hleft.cons y⟩
  | @cons_cons xs ys y hsub ih =>
    rcases takeFirst_cons.1 h with ⟨hy, rfl, rfl⟩ | ⟨hy, rest, hys, rfl⟩
    · exact Or.inr ⟨xs, takeFirst_cons.2 (Or.inl ⟨hy, rfl, rfl⟩), hsub⟩
    · rcases ih hys with hxs | ⟨left, hx, hleft⟩
      · exact Or.inl (hxs.cons_cons y)
      · exact Or.inr ⟨y :: left, takeFirst_cons.2 (Or.inr ⟨hy, left, hx, rfl⟩), hleft.cons_cons y⟩

end First

/-! ## The element with the highest score -/

section Best

variable [ScoreNumber α] {score : β → α} {bar low v : α} {r y : β} {rs rest xs ys : List β}

/-- The best of a nonempty list stands in the tail, above the head where that is above the bar; or
it is the head. -/
theorem takeBest_cons : takeBest score bar (y :: ys) = some (r, v, rest) ↔
    (bar < score y ∧ ∃ left, takeBest score (score y) ys = some (r, v, left) ∧ y :: left = rest) ∨
      (bar < score y ∧ takeBest score (score y) ys = none ∧ y = r ∧ score y = v ∧ ys = rest) ∨
      (¬ bar < score y ∧ ∃ left, takeBest score bar ys = some (r, v, left) ∧ y :: left = rest) := by
  by_cases hy : bar < score y
  · rcases hys : takeBest score (score y) ys with _ | ⟨x, w, left⟩ <;>
      simp [takeBest, hy, hys, and_assoc]
  · simp [takeBest, hy]

/-- No candidate is taken where none scores above the bar. -/
theorem takeBest_eq_none : takeBest score bar rs = none ↔ ∀ x ∈ rs, ¬ bar < score x := by
  induction rs with
  | nil => simp [takeBest]
  | cons y ys ih =>
    by_cases hy : bar < score y
    · rcases hys : takeBest score (score y) ys with _ | ⟨x, w, left⟩ <;>
        simp [takeBest, hy, hys]
    · simp [takeBest, hy, ih]

/-- The best element comes with its score, and all others stay in order. -/
theorem takeBest_split (h : takeBest score bar rs = some (r, v, rest)) :
    ∃ front back, rs = front ++ r :: back ∧ rest = front ++ back ∧ v = score r := by
  induction rs generalizing bar rest with
  | nil => cases h
  | cons y ys ih =>
    rcases takeBest_cons.1 h with ⟨-, left, hys, rfl⟩ | ⟨-, -, rfl, rfl, rfl⟩ | ⟨-, left, hys, rfl⟩
    · obtain ⟨front, back, rfl, rfl, hv⟩ := ih hys
      exact ⟨y :: front, back, rfl, rfl, hv⟩
    · exact ⟨[], ys, rfl, rfl, rfl⟩
    · obtain ⟨front, back, rfl, rfl, hv⟩ := ih hys
      exact ⟨y :: front, back, rfl, rfl, hv⟩

variable [ScoreOrder α]

/-- A candidate that is taken scores above the bar. -/
theorem takeBest_bar_lt (h : takeBest score bar rs = some (r, v, rest)) : bar < v := by
  induction rs generalizing bar rest with
  | nil => cases h
  | cons y ys ih =>
    rcases takeBest_cons.1 h with ⟨hy, _, hys, -⟩ | ⟨hy, -, -, rfl, -⟩ | ⟨-, _, hys, -⟩
    · exact lt_trans hy (ih hys)
    · exact hy
    · exact ih hys

/-- No element has a higher score than the best one. -/
theorem takeBest_max (h : takeBest score bar rs = some (r, v, rest)) :
    ∀ x ∈ rs, ¬ v < score x := by
  induction rs generalizing bar rest with
  | nil => simp
  | cons y ys ih =>
    rw [List.forall_mem_cons]
    rcases takeBest_cons.1 h with ⟨-, _, hys, -⟩ | ⟨-, hys, -, rfl, -⟩ | ⟨hy, _, hys, -⟩
    · exact ⟨fun hlt => lt_irrefl _ (lt_trans hlt (takeBest_bar_lt hys)), ih hys⟩
    · exact ⟨lt_irrefl _, takeBest_eq_none.1 hys⟩
    · exact ⟨fun hlt => hy (lt_trans (takeBest_bar_lt hys) hlt), ih hys⟩

/-- What stands before the best element scores lower, and what stands behind it not higher, where
all scores are comparable. -/
theorem takeBest_first (hself : ∀ x ∈ rs, score x ≤ score x)
    (h : takeBest score bar rs = some (r, v, rest)) :
    ∃ front back, rs = front ++ r :: back ∧ rest = front ++ back ∧ v = score r ∧
      (∀ x ∈ front, score x < v) ∧ ∀ x ∈ back, score x ≤ v := by
  induction rs generalizing bar rest with
  | nil => cases h
  | cons y ys ih =>
    obtain ⟨hy, hself⟩ := List.forall_mem_cons.1 hself
    rcases takeBest_cons.1 h with
      ⟨-, left, hys, rfl⟩ | ⟨-, hys, rfl, rfl, rfl⟩ | ⟨hbar, left, hys, rfl⟩
    · obtain ⟨front, back, rfl, rfl, hv, hfront, hback⟩ := ih hself hys
      have hlt : score y < v := takeBest_bar_lt hys
      exact ⟨y :: front, back, rfl, rfl, hv, List.forall_mem_cons.2 ⟨hlt, hfront⟩, hback⟩
    · have hback : ∀ x ∈ ys, score x ≤ score y := fun x hx =>
        le_of_not_lt hy (hself x hx) (takeBest_eq_none.1 hys x hx)
      exact ⟨[], ys, rfl, rfl, rfl, by simp, hback⟩
    · obtain ⟨front, back, rfl, rfl, hv, hfront, hback⟩ := ih hself hys
      -- The head is not above the bar, which is below what is taken.
      have hlt : bar < v := takeBest_bar_lt hys
      have hle : score y ≤ bar := le_of_not_lt (le_self (le_of_lt hlt)).1 hy hbar
      exact ⟨y :: front, back, rfl, rfl, hv,
        List.forall_mem_cons.2 ⟨lt_of_le_of_lt hle hlt, hfront⟩, hback⟩

/-- What is taken above a bar is also taken above every bar that is not higher. -/
theorem takeBest_lower (hlow : ∀ z, bar < z → low < z)
    (h : takeBest score bar rs = some (r, v, rest)) :
    takeBest score low rs = some (r, v, rest) := by
  -- By induction on the list, for any two bars: a head above a bar is the bar from there on.
  induction rs generalizing bar low rest with
  | nil => cases h
  | cons y ys ih =>
    rcases takeBest_cons.1 h with
      ⟨hy, left, hys, rfl⟩ | ⟨hy, hys, rfl, rfl, rfl⟩ | ⟨hy, left, hys, rfl⟩
    · exact takeBest_cons.2 (Or.inl ⟨hlow _ hy, left, hys, rfl⟩)
    · exact takeBest_cons.2 (Or.inr (Or.inl ⟨hlow _ hy, hys, rfl, rfl, rfl⟩))
    · by_cases hlowy : low < score y
      -- The head is now above the bar, but not above what is taken from the tail.
      · have hys' := ih (fun z hz => lt_of_not_lt hlowy hz hy) hys
        exact takeBest_cons.2 (Or.inl ⟨hlowy, left, hys', rfl⟩)
      · exact takeBest_cons.2 (Or.inr (Or.inr ⟨hlowy, left, ih hlow hys, rfl⟩))

/-- The choice of the best element is consistent. -/
theorem takeBest_sublist (hsub : xs.Sublist ys) (h : takeBest score bar ys = some (r, v, rest)) :
    xs.Sublist rest ∨ ∃ left, takeBest score bar xs = some (r, v, left) ∧ left.Sublist rest := by
  induction hsub generalizing bar rest with
  | slnil => cases h
  | @cons xs ys y hsub ih =>
    rcases takeBest_cons.1 h with ⟨hy, rest, hys, rfl⟩ | ⟨-, -, rfl, -, rfl⟩ | ⟨-, rest, hys, rfl⟩
    · rcases ih hys with hxs | ⟨left, hx, hleft⟩
      · exact Or.inl (hxs.cons y)
      -- Without its head the list has a lower bar, which changes nothing.
      · exact Or.inr ⟨left, takeBest_lower (fun _ hz => lt_trans hy hz) hx, hleft.cons y⟩
    · exact Or.inl hsub
    · rcases ih hys with hxs | ⟨left, hx, hleft⟩
      · exact Or.inl (hxs.cons y)
      · exact Or.inr ⟨left, hx, hleft.cons y⟩
  | @cons_cons xs ys y hsub ih =>
    rcases takeBest_cons.1 h with
      ⟨hy, rest, hys, rfl⟩ | ⟨hy, hys, rfl, rfl, rfl⟩ | ⟨hy, rest, hys, rfl⟩
    · rcases ih hys with hxs | ⟨left, hx, hleft⟩
      · exact Or.inl (hxs.cons_cons y)
      · exact Or.inr
          ⟨y :: left, takeBest_cons.2 (Or.inl ⟨hy, left, hx, rfl⟩), hleft.cons_cons y⟩
    · have hxs : takeBest score (score y) xs = none :=
        takeBest_eq_none.2 fun x hx => takeBest_eq_none.1 hys x (hsub.subset hx)
      exact Or.inr ⟨xs, takeBest_cons.2 (Or.inr (Or.inl ⟨hy, hxs, rfl, rfl, rfl⟩)), hsub⟩
    · rcases ih hys with hxs | ⟨left, hx, hleft⟩
      · exact Or.inl (hxs.cons_cons y)
      · exact Or.inr
          ⟨y :: left, takeBest_cons.2 (Or.inr (Or.inr ⟨hy, left, hx, rfl⟩)), hleft.cons_cons y⟩

end Best

/-! ## Other names and other numbers -/

/-- The best element stays the best under other names and with other numbers in the same order. -/
theorem takeBest_map {γ δ : Type} [ScoreNumber α] [ScoreNumber δ] {f : β → γ} {g : α → δ}
    (hg : ∀ u v, g u < g v ↔ u < v) (score' : γ → δ) {score : β → α}
    (hscore : ∀ x, score' (f x) = g (score x)) (bar : α) (xs : List β) :
    takeBest score' (g bar) (xs.map f) =
      (takeBest score bar xs).map fun (x, v, rest) => (f x, g v, rest.map f) := by
  induction xs generalizing bar with
  | nil => rfl
  | cons x xs ih =>
    rw [List.map_cons, takeBest, takeBest]
    by_cases hx : bar < score x
    · simp only [hscore, hg, if_pos hx, ih]
      rcases takeBest score (score x) xs with _ | ⟨y, v, rest⟩ <;> rfl
    · simp only [hscore, hg, if_neg hx, ih, Option.map_map]
      rfl

end StructureGrader
