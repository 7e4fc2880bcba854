import StructureGrader.Proofs.Text.Occurrence
import StructureGrader.Proofs.Text.SmallLetters

/-!
# Counting in texts that are put together

A scan for a pattern does not reach across a character that the pattern does not have
(`countFrom_append_cons`), nor does it where the pattern is that single character (`Bounds`). Where two
texts meet at such a character the occurrences in them add up (`Meets.countChars_append`). For a pattern
in ASCII they can be counted in the small letters of the characters one by one
(`countOccurrences_lower`).
-/

namespace StructureGrader.Text

variable {p xs ys : List Char} {c : Char}

/-! ## Counting around a character -/

/-- Behind a character that the pattern does not have the scan starts anew, unless it has to skip
more than the characters in front. -/
theorem countFrom_append_cons (hne : p ≠ []) (hc : c ∉ p) {skip : Nat} (hskip : skip ≤ xs.length) :
    countFrom p skip (xs ++ c :: ys) = countFrom p skip xs + countFrom p 0 ys := by
  induction xs generalizing skip with
  | nil =>
    -- The scan stands at the character itself, where the pattern cannot start.
    obtain rfl : skip = 0 := Nat.le_zero.1 hskip
    have hnot : p.isPrefixOf (c :: ys) = false := by
      rw [Bool.eq_false_iff, Ne, List.isPrefixOf_iff_prefix]
      have hfront : p <+: [] ++ c :: ys ↔ p <+: [] := prefix_append_cons_iff hc
      rw [List.nil_append, List.prefix_nil] at hfront
      exact fun h => hne (hfront.1 h)
    have hstart : countFrom p 0 (c :: ys) = countFrom p 0 ys := by
      rw [countFrom, hnot, if_neg Bool.false_ne_true]
    rw [List.nil_append, hstart, countFrom, Nat.zero_add]
  | cons x xs ih =>
    cases skip with
    | succ skip => exact ih (Nat.le_of_succ_le_succ hskip)
    | zero =>
      have hsame : p.isPrefixOf (x :: (xs ++ c :: ys)) = p.isPrefixOf (x :: xs) := by
        rw [Bool.eq_iff_iff, List.isPrefixOf_iff_prefix, List.isPrefixOf_iff_prefix,
          ← List.cons_append, prefix_append_cons_iff hc]
      rw [List.cons_append, countFrom, countFrom, hsame]
      split
      · rename_i hprefix
        -- The occurrence ends in front of the character.
        have hlength := (List.isPrefixOf_iff_prefix.1 hprefix).length_le
        rw [List.length_cons] at hlength
        rw [ih (by omega)]
        omega
      · exact ih (Nat.zero_le _)

/-- In the empty text nothing is counted. -/
theorem countChars_nil (p : List Char) : countChars [] p = 0 := by
  unfold countChars
  split <;> rfl

/-- Around a character that the pattern does not have the occurrences add up. -/
theorem countChars_append_cons (hc : c ∉ p) (xs ys : List Char) :
    countChars (xs ++ c :: ys) p = countChars xs p + countChars ys p := by
  -- The empty pattern occurs nowhere, so nothing has to be kept apart for it.
  by_cases hne : p = []
  · rw [hne]
    rfl
  have hsome : ¬ p.isEmpty = true := by simpa using hne
  unfold countChars
  rw [if_neg hsome, if_neg hsome, if_neg hsome, countFrom_append_cons hne hc (Nat.zero_le _)]

/-- A pattern of one character is counted as that character is. -/
theorem countChars_singleton (c : Char) (xs : List Char) : countChars xs [c] = xs.count c := by
  have hcount : ∀ xs : List Char, countFrom [c] 0 xs = xs.count c := by
    intro xs
    induction xs with
    | nil => rfl
    | cons x xs ih =>
      have htest : [c].isPrefixOf (x :: xs) = (x == c) := by
        rw [List.isPrefixOf, List.isPrefixOf, Bool.and_true]
        exact Bool.beq_comm
      rw [countFrom, htest, List.count_cons]
      split <;> exact ih ▸ rfl
  exact hcount xs

/-- A character bounds the occurrences of a pattern when the pattern does not have it or is nothing
else. -/
def Bounds (c : Char) (p : List Char) : Prop :=
  c ∉ p ∨ p = [c]

instance (c : Char) (p : List Char) : Decidable (Bounds c p) :=
  inferInstanceAs (Decidable (_ ∨ _))

/-- Around a bounding character the occurrences add up with those that it makes itself. -/
theorem Bounds.countChars_append_cons (h : Bounds c p) (xs ys : List Char) :
    countChars (xs ++ c :: ys) p = countChars xs p + countChars [c] p + countChars ys p := by
  obtain hc | rfl := h
  · have hnone := Text.countChars_append_cons hc [] []
    rw [List.nil_append, countChars_nil] at hnone
    rw [Text.countChars_append_cons hc, hnone, Nat.add_zero]
  · simp only [countChars_singleton, List.count_append, List.count_cons, List.count_nil]
    omega

/-- No occurrence reaches across the place where two texts meet, as one of them is empty or a
character that bounds the pattern stands there. -/
def Meets (p xs ys : List Char) : Prop :=
  xs = [] ∨ ys = [] ∨ (∃ front c, xs = front ++ [c] ∧ Bounds c p) ∨
    ∃ c rest, ys = c :: rest ∧ Bounds c p

/-- There the occurrences in the two texts add up. -/
theorem Meets.countChars_append (h : Meets p xs ys) :
    countChars (xs ++ ys) p = countChars xs p + countChars ys p := by
  obtain rfl | rfl | ⟨front, c, rfl, hc⟩ | ⟨c, rest, rfl, hc⟩ := h
  · rw [List.nil_append, countChars_nil, Nat.zero_add]
  · rw [List.append_nil, countChars_nil, Nat.add_zero]
  · have hfront := hc.countChars_append_cons front []
    rw [countChars_nil, Nat.add_zero] at hfront
    rw [List.append_assoc, List.singleton_append, hc.countChars_append_cons, hfront]
  · have hrest := hc.countChars_append_cons [] rest
    rw [List.nil_append, countChars_nil, Nat.zero_add] at hrest
    rw [hc.countChars_append_cons, hrest, Nat.add_assoc]

/-! ## Counting in small letters -/

/-- A pattern in ASCII starts either both of two texts that are alike in ASCII or neither. -/
theorem isPrefixOf_alike (hp : ∀ d ∈ p, d.toNat < 128) (h : List.Forall₂ AsciiAlike xs ys) :
    p.isPrefixOf xs = p.isPrefixOf ys := by
  induction h generalizing p with
  | nil => rfl
  | @cons x y xs ys hxy _ ih =>
    cases p with
    | nil => rfl
    | cons d p =>
      have hd : (d == x) = (d == y) := by
        obtain rfl | ⟨hx, hy⟩ := hxy
        · rfl
        · have hascii := hp d List.mem_cons_self
          rw [beq_false_of_ne (by rintro rfl; omega), beq_false_of_ne (by rintro rfl; omega)]
      rw [List.isPrefixOf, List.isPrefixOf, hd, ih fun e he => hp e (List.mem_cons_of_mem d he)]

/-- For a pattern in ASCII it does not matter which of the other characters are there. -/
theorem countChars_alike (hp : ∀ d ∈ p, d.toNat < 128) (h : List.Forall₂ AsciiAlike xs ys) :
    countChars xs p = countChars ys p := by
  have hfrom : ∀ skip, countFrom p skip xs = countFrom p skip ys := by
    intro skip
    induction h generalizing skip with
    | nil => rfl
    | @cons x y xs ys hxy hrest ih =>
      cases skip with
      | succ skip => exact ih skip
      | zero => rw [countFrom, countFrom, isPrefixOf_alike hp (.cons hxy hrest), ih, ih]
  unfold countChars
  rw [hfrom]

/-- In small letters an ASCII pattern occurs as often as in those of the characters one by one. -/
theorem countOccurrences_lower {pattern : String} (hp : ∀ d ∈ pattern.toList, d.toNat < 128)
    (s : String) : countOccurrences (lower s) pattern =
      countChars (s.toList.flatMap smallLetters) pattern.toList := by
  rw [countOccurrences, lower, String.toList_ofList]
  exact countChars_alike hp (lowerFrom_alike [] s.toList)

end StructureGrader.Text
