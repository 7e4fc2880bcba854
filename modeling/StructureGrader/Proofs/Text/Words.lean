import StructureGrader.Text.Blank
import Mathlib.Data.List.Basic

/-!
# The words of texts that are put together

A run of characters that are not blank is read as one word up to the next blank
(`wordsOf_append_blank`), or up to the end of the text (`wordsOf_self`); where more characters follow
it is at least the beginning of the first word (`wordsOf_append`). All three come from following the
run character by character (`wordsFrom_append`).
-/

namespace StructureGrader.Text

/-! ## Runs of characters -/

section Chars

variable {w acc cs : List Char}

/-- A run of characters joins the word under way. -/
theorem wordsFrom_append (hw : ∀ c ∈ w, isBlank c = false) (acc cs : List Char) :
    wordsFrom acc (w ++ cs) = wordsFrom (w.reverse ++ acc) cs := by
  induction w generalizing acc with
  | nil => rfl
  | cons c w ih =>
    have hc : isBlank c = false := hw c List.mem_cons_self
    rw [List.cons_append, wordsFrom, hc, if_neg Bool.false_ne_true,
      ih fun d hd => hw d (List.mem_cons_of_mem c hd), List.reverse_cons, List.append_assoc]
    rfl

/-- A run of characters before a blank is a word. -/
theorem wordsOf_append_blank (hne : w ≠ []) (hw : ∀ c ∈ w, isBlank c = false) (cs : List Char) :
    wordsOf (w ++ ' ' :: cs) = w :: wordsOf cs := by
  have hblank : isBlank ' ' = true := by decide
  rw [wordsOf, wordsFrom_append hw, List.append_nil, wordsFrom, if_pos hblank,
    List.isEmpty_reverse, if_neg (by simpa using hne), List.reverse_reverse, wordsOf]

/-- A run of characters alone is a word. -/
theorem wordsOf_self (hne : w ≠ []) (hw : ∀ c ∈ w, isBlank c = false) : wordsOf w = [w] := by
  have hrun := wordsFrom_append hw [] []
  rw [List.append_nil, List.append_nil] at hrun
  rw [wordsOf, hrun, wordsFrom, List.isEmpty_reverse, if_neg (by simpa using hne),
    List.reverse_reverse]

/-- A word under way is the beginning of the next word. -/
theorem wordsFrom_eq_cons (hne : acc ≠ []) (cs : List Char) :
    ∃ tail more, wordsFrom acc cs = (acc.reverse ++ tail) :: more := by
  induction cs generalizing acc with
  | nil => exact ⟨[], [], by rw [wordsFrom, if_neg (by simpa using hne), List.append_nil]⟩
  | cons c cs ih =>
    rw [wordsFrom]
    -- The next character is a blank, behind a word under way, or goes on with that word.
    split_ifs with hc hacc
    · exact absurd (List.isEmpty_iff.1 hacc) hne
    · exact ⟨[], wordsFrom [] cs, by rw [List.append_nil]⟩
    · obtain ⟨tail, more, hmore⟩ := ih (List.cons_ne_nil c acc)
      exact ⟨c :: tail, more, by rw [hmore, List.reverse_cons, List.append_assoc]; rfl⟩

/-- A run of characters is the beginning of the first word. -/
theorem wordsOf_append (hne : w ≠ []) (hw : ∀ c ∈ w, isBlank c = false) (cs : List Char) :
    ∃ tail more, wordsOf (w ++ cs) = (w ++ tail) :: more := by
  have hrev : w.reverse ≠ [] := by simpa using hne
  obtain ⟨tail, more, hmore⟩ := wordsFrom_eq_cons hrev cs
  exact ⟨tail, more, by rw [wordsOf, wordsFrom_append hw, List.append_nil, hmore,
    List.reverse_reverse]⟩

end Chars

/-! ## Words -/

/-- A text that is one word. -/
structure IsWord (s : String) : Prop where
  ne : s ≠ ""
  chars : ∀ c ∈ s.toList, isBlank c = false

instance (s : String) : Decidable (IsWord s) :=
  haveI : Decidable (∀ c ∈ s.toList, isBlank c = false) := List.decidableBAll _ _
  decidable_of_iff (s ≠ "" ∧ ∀ c ∈ s.toList, isBlank c = false)
    ⟨fun ⟨hne, hchars⟩ => ⟨hne, hchars⟩, fun h => ⟨h.ne, h.chars⟩⟩

namespace IsWord

variable {s : String}

/-- A word has at least one character. -/
theorem toList_ne (h : IsWord s) : s.toList ≠ [] :=
  fun heq => h.ne (String.toList_eq_nil_iff.1 heq)

/-- A word is the one word of its text. -/
theorem words (h : IsWord s) : words s = [s] := by
  rw [Text.words, wordsOf_self h.toList_ne h.chars, List.map_singleton, String.ofList_toList]

/-- A word and a space in front of a text are one more word. -/
theorem words_append (h : IsWord s) (t : String) :
    Text.words (s ++ " " ++ t) = s :: Text.words t := by
  have hlist : (s ++ " " ++ t).toList = s.toList ++ ' ' :: t.toList := by
    simp [String.toList_append]
  rw [Text.words, hlist, wordsOf_append_blank h.toList_ne h.chars, List.map_cons,
    String.ofList_toList, Text.words]

end IsWord

end StructureGrader.Text
