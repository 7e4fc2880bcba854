import StructureGrader.Text.Search
import Mathlib.Data.List.Infix

/-!
# What occurs in a text

A text contains a pattern when the characters of the pattern stand in it in a row (`contains_iff`).
Where two texts are put together with a separator in between that has no character of the pattern
(`Apart`), the pattern occurs in the whole only where it occurs in one of the two
(`contains_append`), and in a list that is put together in this way only where it occurs in an item
(`contains_intercalate`).
-/

namespace StructureGrader.Text

/-! ## Patterns and separators as lists of characters -/

section Chars

variable {p xs ys sep : List Char} {c : Char}

/-- A pattern occurs in a text where it is a part of it. -/
theorem occursIn_iff : occursIn p xs = true ↔ p <:+: xs := by
  induction xs with
  | nil => simp [occursIn]
  | cons x xs ih => rw [occursIn, Bool.or_eq_true, List.isPrefixOf_iff_prefix, ih, List.infix_cons_iff]

/-- A pattern that starts at the front ends before a character that it does not have. -/
theorem prefix_append_cons_iff (hc : c ∉ p) : p <+: xs ++ c :: ys ↔ p <+: xs := by
  induction xs generalizing p with
  | nil =>
    cases p with
    | nil => simp
    | cons d p =>
      have hne : d ≠ c := fun heq => hc (heq ▸ List.mem_cons_self)
      simp [List.cons_prefix_cons, hne]
  | cons x xs ih =>
    cases p with
    | nil => simp
    | cons d p =>
      have hp : c ∉ p := fun hmem => hc (List.mem_cons_of_mem d hmem)
      rw [List.cons_append, List.cons_prefix_cons, List.cons_prefix_cons, ih hp]

/-- A pattern does not reach across a character that it does not have. -/
theorem infix_append_cons_iff (hc : c ∉ p) :
    p <:+: xs ++ c :: ys ↔ p <:+: xs ∨ p <:+: ys := by
  induction xs with
  | nil =>
    have hfront : p <+: [] ++ c :: ys ↔ p <+: [] := prefix_append_cons_iff hc
    rw [List.nil_append] at hfront
    rw [List.nil_append, List.infix_cons_iff, hfront, List.infix_nil, List.prefix_nil]
  | cons x xs ih =>
    rw [List.cons_append, List.infix_cons_iff, ← List.cons_append, prefix_append_cons_iff hc, ih,
      List.infix_cons_iff, or_assoc]

/-- Nor does it reach across several of them. -/
theorem infix_append_separator_iff (hp : p ≠ []) (hsep : sep ≠ []) (hapart : ∀ c ∈ sep, c ∉ p) :
    p <:+: xs ++ (sep ++ ys) ↔ p <:+: xs ∨ p <:+: ys := by
  induction sep generalizing xs with
  | nil => exact absurd rfl hsep
  | cons c rest ih =>
    rw [List.cons_append, infix_append_cons_iff (hapart c List.mem_cons_self)]
    rcases rest with _ | ⟨d, rest⟩
    · rw [List.nil_append]
    -- What is left of the separator stands in front of the second text.
    · have hrest : p <:+: [] ++ (d :: rest ++ ys) ↔ p <:+: [] ∨ p <:+: ys :=
        ih (List.cons_ne_nil d rest) fun e he => hapart e (List.mem_cons_of_mem c he)
      rw [List.nil_append, List.infix_nil] at hrest
      rw [hrest, or_iff_right hp]

end Chars

/-! ## Texts -/

variable {sep w : String}

/-- A text contains a pattern whose characters stand in it in a row. -/
theorem contains_iff {s : String} : contains s w = true ↔ w.toList <:+: s.toList :=
  occursIn_iff

/-- Every text contains itself. -/
theorem contains_self (s : String) : contains s s = true :=
  contains_iff.2 (List.infix_refl _)

/-- A separator and a pattern, neither of them empty, have no character in common. -/
structure Apart (sep w : String) : Prop where
  sep_ne : sep.toList ≠ []
  pattern_ne : w.toList ≠ []
  chars : ∀ c ∈ sep.toList, c ∉ w.toList

instance (sep w : String) : Decidable (Apart sep w) :=
  -- The characters of the list are tried, not all characters.
  haveI : Decidable (∀ c ∈ sep.toList, c ∉ w.toList) := List.decidableBAll _ _
  decidable_of_iff
    (sep.toList ≠ [] ∧ w.toList ≠ [] ∧ ∀ c ∈ sep.toList, c ∉ w.toList)
    ⟨fun ⟨h₁, h₂, h₃⟩ => ⟨h₁, h₂, h₃⟩, fun ⟨h₁, h₂, h₃⟩ => ⟨h₁, h₂, h₃⟩⟩

/-- The empty text contains no other. -/
theorem contains_empty (hw : w.toList ≠ []) : contains "" w = false := by
  rw [Bool.eq_false_iff, Ne, contains_iff]
  simpa using hw

/-- Around a separator a pattern occurs in one of the two texts. -/
theorem contains_append (h : Apart sep w) (s t : String) :
    contains (s ++ (sep ++ t)) w = (contains s w || contains t w) := by
  rw [Bool.eq_iff_iff, Bool.or_eq_true, contains_iff, contains_iff, contains_iff,
    String.toList_append, String.toList_append]
  exact infix_append_separator_iff h.pattern_ne h.sep_ne h.chars

/-- In a list with separators a pattern occurs in one of the items. -/
theorem contains_intercalate (h : Apart sep w) (items : List String) :
    contains (sep.intercalate items) w = items.any (contains · w) := by
  induction items with
  | nil => simpa using contains_empty h.pattern_ne
  | cons s items ih =>
    rcases items with _ | ⟨t, items⟩
    · simp
    · rw [String.intercalate_cons_cons, String.append_assoc, contains_append h, ih]
      simp only [List.any_cons]

end StructureGrader.Text
