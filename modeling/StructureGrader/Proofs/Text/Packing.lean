import StructureGrader.Text.Search
import Mathlib.Data.Finset.Card
import Mathlib.Logic.Function.Iterate
import Mathlib.Order.Bounds.Basic

/-!
# Occurrences without overlaps

A scan from left to right that goes on behind each occurrence counts as many occurrences of a
pattern as can be had without overlaps. A set of such occurrences is a packing (`IsPacking`), and
within the length of the pattern no packing starts twice (`IsPacking.card_window_le`). So where the
pattern stands at the front at most one place of a packing is lost by taking the occurrence there
(`IsPacking.card_le`), and the scan itself gives a packing (`exists_packing`). Where two texts are
put together at most one place of a packing lies across the seam, so the counts add up but for one.

The scan is also what rounds of searching come to, each of which looks for the next occurrence behind
the last one (`iterate_countRound`).
-/

namespace StructureGrader.Text

variable {p xs ys : List Char} {places : Finset Nat}

/-! ## Packings -/

/-- Places of a pattern in a text, no two of which overlap. -/
structure IsPacking (p xs : List Char) (places : Finset Nat) : Prop where
  occurs : ∀ i ∈ places, p <+: xs.drop i
  apart : ∀ i ∈ places, ∀ j ∈ places, i < j → i + p.length ≤ j

instance (p xs : List Char) (places : Finset Nat) : Decidable (IsPacking p xs places) :=
  decidable_of_iff ((∀ i ∈ places, p <+: xs.drop i) ∧
      ∀ i ∈ places, ∀ j ∈ places, i < j → i + p.length ≤ j)
    ⟨fun ⟨hoccurs, hapart⟩ => ⟨hoccurs, hapart⟩, fun h => ⟨h.occurs, h.apart⟩⟩

/-- Shifted places are as many. -/
theorem card_shift (n : Nat) (places : Finset Nat) : (places.image (n + ·)).card = places.card :=
  Finset.card_image_of_injective _ fun _ _ => Nat.add_left_cancel

/-- Shifted places start from where they were shifted to. -/
theorem le_of_mem_shift {n i : Nat} (h : i ∈ places.image (n + ·)) : n ≤ i := by
  obtain ⟨k, -, rfl⟩ := Finset.mem_image.1 h
  exact Nat.le_add_right n k

namespace IsPacking

/-- Places left out of a packing leave a packing. -/
theorem filter (h : IsPacking p xs places) (test : Nat → Prop) [DecidablePred test] :
    IsPacking p xs (places.filter test) where
  occurs i hi := h.occurs i (Finset.mem_of_mem_filter i hi)
  apart i hi j hj := h.apart i (Finset.mem_of_mem_filter i hi) j (Finset.mem_of_mem_filter j hj)

/-- Within the length of the pattern at most one occurrence starts. -/
theorem card_window_le (h : IsPacking p xs places) (start : Nat) :
    (places.filter fun i => start ≤ i ∧ i < start + p.length).card ≤ 1 := by
  rw [Finset.card_le_one]
  intro i hi j hj
  rw [Finset.mem_filter] at hi hj
  obtain hlt | heq | hgt := lt_trichotomy i j
  · have hapart := h.apart i hi.1 j hj.1 hlt
    omega
  · exact heq
  · have hapart := h.apart j hj.1 i hi.1 hgt
    omega

/-- An occurrence ends within the text. -/
theorem end_le (h : IsPacking p xs places) (hne : p ≠ []) {i : Nat} (hi : i ∈ places) :
    i + p.length ≤ xs.length := by
  have hlength := (h.occurs i hi).length_le
  have hpos := List.length_pos_iff.2 hne
  rw [List.length_drop] at hlength
  omega

/-- A packing in the empty text is empty. -/
theorem eq_empty (h : IsPacking p [] places) (hne : p ≠ []) : places = ∅ := by
  rw [Finset.eq_empty_iff_forall_notMem]
  intro i hi
  have hoccurs := h.occurs i hi
  rw [List.drop_nil, List.prefix_nil] at hoccurs
  exact hne hoccurs

/-- The places of what is left of a text are places of the text. -/
theorem shift {n : Nat} (h : IsPacking p (xs.drop n) places) :
    IsPacking p xs (places.image (n + ·)) := by
  constructor
  · intro i hi
    obtain ⟨k, hk, rfl⟩ := Finset.mem_image.1 hi
    rw [← List.drop_drop]
    exact h.occurs k hk
  · intro i hi j hj hlt
    obtain ⟨k, hk, rfl⟩ := Finset.mem_image.1 hi
    obtain ⟨l, hl, rfl⟩ := Finset.mem_image.1 hj
    have hapart := h.apart k hk l hl (Nat.lt_of_add_lt_add_left hlt)
    omega

/-- Places that do not start too early are places of what is left of the text. -/
theorem exists_drop {n : Nat} (h : IsPacking p xs places) (hlate : ∀ i ∈ places, n ≤ i) :
    ∃ later, IsPacking p (xs.drop n) later ∧ later.card = places.card := by
  refine ⟨places.image (· - n), ⟨?_, ?_⟩, Finset.card_image_of_injOn ?_⟩
  · intro i hi
    obtain ⟨k, hk, rfl⟩ := Finset.mem_image.1 hi
    rw [List.drop_drop, Nat.add_sub_cancel' (hlate k hk)]
    exact h.occurs k hk
  · intro i hi j hj hlt
    obtain ⟨k, hk, rfl⟩ := Finset.mem_image.1 hi
    obtain ⟨l, hl, rfl⟩ := Finset.mem_image.1 hj
    have hk' := hlate k hk
    have hapart := h.apart k hk l hl (by omega)
    omega
  · intro k hk l hl heq
    have hk' := hlate k hk
    have hl' := hlate l hl
    dsimp only at heq
    omega

end IsPacking

/-! ## The scan -/

/-- Leaving out a pattern's length is leaving out the first character and one fewer of the others.
-/
theorem drop_cons_length (hne : p ≠ []) (x : Char) (xs : List Char) :
    (x :: xs).drop p.length = xs.drop (p.length - 1) := by
  cases p with
  | nil => exact absurd rfl hne
  | cons c p => rfl

/-- No packing has more places than the scan counts. -/
theorem IsPacking.card_le (hne : p ≠ []) {skip : Nat} (h : IsPacking p (xs.drop skip) places) :
    places.card ≤ countFrom p skip xs := by
  induction xs generalizing skip places with
  | nil =>
    rw [List.drop_nil] at h
    rw [h.eq_empty hne]
    exact Nat.zero_le _
  | cons x xs ih =>
    cases skip with
    | succ skip => exact ih h
    | zero =>
      rw [List.drop_zero] at h
      rw [countFrom]
      split
      · -- At most one place starts within the occurrence that the scan takes.
        have hearly : (places.filter (· < p.length)).card ≤ 1 := by
          simpa using h.card_window_le 0
        have hlate : (places.filter fun i => ¬ i < p.length).card ≤ countFrom p (p.length - 1) xs := by
          obtain ⟨later, hlater, hcard⟩ := (h.filter fun i => ¬ i < p.length).exists_drop
            fun i hi => Nat.not_lt.1 (Finset.mem_filter.1 hi).2
          rw [drop_cons_length hne] at hlater
          exact hcard ▸ ih hlater
        rw [← Finset.card_filter_add_card_filter_not (· < p.length)]
        omega
      · rename_i hprefix
        obtain ⟨later, hlater, hcard⟩ := h.exists_drop (n := 1) (by
          intro i hi
          by_contra hzero
          obtain rfl : i = 0 := by omega
          exact hprefix (List.isPrefixOf_iff_prefix.2 (h.occurs 0 hi)))
        exact hcard ▸ ih hlater

/-- There is a packing of as many places as the scan counts. -/
theorem exists_packing (hne : p ≠ []) (xs : List Char) (skip : Nat) :
    ∃ places, IsPacking p (xs.drop skip) places ∧ places.card = countFrom p skip xs := by
  induction xs generalizing skip with
  | nil => exact ⟨∅, ⟨by simp, by simp⟩, rfl⟩
  | cons x xs ih =>
    cases skip with
    | succ skip => exact ih skip
    | zero =>
      rw [countFrom, List.drop_zero]
      split
      · rename_i hprefix
        obtain ⟨later, hlater, hcard⟩ := ih (p.length - 1)
        rw [← drop_cons_length hne x] at hlater
        have hpos := List.length_pos_iff.2 hne
        refine ⟨insert 0 (later.image (p.length + ·)), ⟨?_, ?_⟩, ?_⟩
        · rw [Finset.forall_mem_insert]
          exact ⟨List.isPrefixOf_iff_prefix.1 hprefix, hlater.shift.occurs⟩
        · intro i hi j hj hlt
          rw [Finset.mem_insert] at hi hj
          obtain rfl | hj := hj
          · exact absurd hlt (Nat.not_lt_zero i)
          obtain rfl | hi := hi
          · rw [Nat.zero_add]
            exact le_of_mem_shift hj
          · exact hlater.shift.apart i hi j hj hlt
        · rw [Finset.card_insert_of_notMem, card_shift, hcard]
          intro hzero
          have hle := le_of_mem_shift hzero
          omega
      · obtain ⟨later, hlater, hcard⟩ := ih 0
        rw [List.drop_zero] at hlater
        exact ⟨later.image (1 + ·), IsPacking.shift (n := 1) hlater,
          (card_shift 1 later).trans hcard⟩

/-- A pattern that is not empty is counted from the start. -/
theorem countChars_of_ne_nil (hne : p ≠ []) (xs : List Char) : countChars xs p = countFrom p 0 xs :=
  if_neg (by simpa using hne)

/-- The scan counts the most places that a packing can have. -/
theorem countChars_isGreatest (hne : p ≠ []) (xs : List Char) :
    IsGreatest {n | ∃ places, IsPacking p xs places ∧ places.card = n} (countChars xs p) := by
  rw [countChars_of_ne_nil hne]
  refine ⟨exists_packing hne xs 0, ?_⟩
  rintro n ⟨places, hplaces, rfl⟩
  rw [← List.drop_zero (l := xs)] at hplaces
  exact hplaces.card_le hne

/-! ## Texts that are put together -/

/-- Occurrences in both texts are occurrences in the whole. -/
theorem countChars_append_ge (hne : p ≠ []) (xs ys : List Char) :
    countChars xs p + countChars ys p ≤ countChars (xs ++ ys) p := by
  obtain ⟨front, hfront, hfrontCard⟩ := (countChars_isGreatest hne xs).1
  obtain ⟨back, hback, hbackCard⟩ := (countChars_isGreatest hne ys).1
  have hends : ∀ i ∈ front, i + p.length ≤ xs.length := fun i hi => hfront.end_le hne hi
  have hlater : IsPacking p (xs ++ ys) (back.image (xs.length + ·)) :=
    IsPacking.shift (by rwa [List.drop_left])
  have hstarts : ∀ j ∈ back.image (xs.length + ·), xs.length ≤ j := fun j =>
    le_of_mem_shift
  have hpos := List.length_pos_iff.2 hne
  have hboth : IsPacking p (xs ++ ys) (front ∪ back.image (xs.length + ·)) := by
    constructor
    · intro i hi
      obtain hi | hi := Finset.mem_union.1 hi
      · rw [List.drop_append]
        exact (hfront.occurs i hi).trans (List.prefix_append _ _)
      · exact hlater.occurs i hi
    · intro i hi j hj hlt
      obtain hi | hi := Finset.mem_union.1 hi <;> obtain hj | hj := Finset.mem_union.1 hj
      · exact hfront.apart i hi j hj hlt
      · exact (hends i hi).trans (hstarts j hj)
      · have hend := hends j hj
        have hstart := hstarts i hi
        omega
      · exact hlater.apart i hi j hj hlt
  have hdisjoint : Disjoint front (back.image (xs.length + ·)) := by
    rw [Finset.disjoint_left]
    intro i hi hi'
    have hend := hends i hi
    have hstart := hstarts i hi'
    omega
  refine (countChars_isGreatest hne (xs ++ ys)).2 ⟨_, hboth, ?_⟩
  rw [Finset.card_union_of_disjoint hdisjoint, card_shift, hfrontCard, hbackCard]

/-- At most one occurrence of a packing lies across the seam. -/
theorem countChars_append_le (hne : p ≠ []) (xs ys : List Char) :
    countChars (xs ++ ys) p ≤ countChars xs p + countChars ys p + 1 := by
  obtain ⟨places, h, hcard⟩ := (countChars_isGreatest hne (xs ++ ys)).1
  have hfront : (places.filter fun i => i + p.length ≤ xs.length).card ≤ countChars xs p := by
    refine (countChars_isGreatest hne xs).2 ⟨_, ⟨fun i hi => ?_, (h.filter _).apart⟩, rfl⟩
    obtain ⟨hi, hend⟩ := Finset.mem_filter.1 hi
    have hoccurs := h.occurs i hi
    rw [List.drop_append] at hoccurs
    exact List.prefix_of_prefix_length_le hoccurs (List.prefix_append _ _)
      (by rw [List.length_drop]; omega)
  have hback : (places.filter fun i => xs.length ≤ i).card ≤ countChars ys p := by
    obtain ⟨later, hlater, hlaterCard⟩ := (h.filter _).exists_drop (n := xs.length)
      fun i hi => (Finset.mem_filter.1 hi).2
    rw [List.drop_left] at hlater
    exact hlaterCard ▸ (countChars_isGreatest hne ys).2 ⟨later, hlater, rfl⟩
  have hseam := h.card_window_le (xs.length + 1 - p.length)
  have hcover : places ⊆ (places.filter fun i => i + p.length ≤ xs.length) ∪
      (places.filter fun i => xs.length ≤ i) ∪
      (places.filter fun i => xs.length + 1 - p.length ≤ i ∧
        i < xs.length + 1 - p.length + p.length) := by
    intro i hi
    rw [Finset.mem_union, Finset.mem_union, Finset.mem_filter, Finset.mem_filter, Finset.mem_filter]
    simp only [hi, true_and]
    omega
  calc countChars (xs ++ ys) p = places.card := hcard.symm
    _ ≤ _ := Finset.card_le_card hcover
    _ ≤ _ := (Finset.card_union_le _ _).trans (Nat.add_le_add_right (Finset.card_union_le _ _) _)
    _ ≤ countChars xs p + countChars ys p + 1 := by omega

/-! ## Rounds of searching -/

/-- The first place of a pattern in a text from a position on. -/
def placeFrom? (p xs : List Char) (start : Nat) : Option Nat :=
  (List.range' start (xs.length + 1 - start)).find? fun i => p.isPrefixOf (xs.drop i)

/-- A round of searching: the occurrence that was found is counted, and the next one is looked for
behind it. Where none was found nothing changes any more. -/
def countRound (p xs : List Char) : Nat × Option Nat → Nat × Option Nat
  | (count, some i) => (count + 1, placeFrom? p xs (i + p.length))
  | (count, none) => (count, none)

/-- The number of occurrences from a place on. -/
def countAt (p xs : List Char) : Option Nat → Nat
  | some i => countFrom p 0 (xs.drop i)
  | none => 0

/-- At a place that is found the pattern stands. -/
theorem prefix_of_placeFrom? {i j : Nat} (h : placeFrom? p xs j = some i) :
    p <+: xs.drop i :=
  List.isPrefixOf_iff_prefix.1 (List.find?_some (p := fun k => p.isPrefixOf (xs.drop k)) h)

/-- Counting with characters to skip is counting behind them. -/
theorem countFrom_eq_drop (p : List Char) (skip : Nat) (xs : List Char) :
    countFrom p skip xs = countFrom p 0 (xs.drop skip) := by
  induction xs generalizing skip with
  | nil => rw [List.drop_nil, countFrom, countFrom]
  | cons x xs ih =>
    cases skip with
    | zero => rfl
    | succ skip => exact ih skip

/-- The scan counts an occurrence at the front and goes on behind it. -/
theorem countFrom_of_prefix (hne : p ≠ []) (h : p <+: xs) :
    countFrom p 0 xs = countFrom p 0 (xs.drop p.length) + 1 := by
  cases xs with
  | nil => exact absurd (List.prefix_nil.1 h) hne
  | cons x xs =>
    rw [countFrom, if_pos (List.isPrefixOf_iff_prefix.2 h), countFrom_eq_drop p (p.length - 1),
      drop_cons_length hne]

/-- From a position on the scan counts what it counts from the next occurrence on. -/
theorem countFrom_drop (p xs : List Char) (start : Nat) :
    countFrom p 0 (xs.drop start) = countAt p xs (placeFrom? p xs start) := by
  unfold placeFrom?
  induction hsize : xs.length + 1 - start generalizing start with
  | zero =>
    rw [List.drop_eq_nil_of_le (by omega)]
    rfl
  | succ n ih =>
    rw [List.range'_succ, List.find?_cons]
    cases htest : p.isPrefixOf (xs.drop start) with
    | true => rfl
    | false =>
      rw [← ih (start + 1) (by omega)]
      cases hdrop : xs.drop start with
      | nil => rw [List.drop_eq_nil_of_le (by have := List.drop_eq_nil_iff.1 hdrop; omega)]
      | cons x rest =>
        have hrest : xs.drop (start + 1) = rest := by
          rw [← List.drop_drop, hdrop, List.drop_one, List.tail_cons]
        rw [hdrop] at htest
        rw [hrest, countFrom, htest, if_neg Bool.false_ne_true]

/-- From any occurrence on the search ends after as many rounds as there are occurrences to count.
-/
theorem iterate_countRound (hne : p ≠ []) (count : Nat) (place : Option Nat)
    (hplace : ∀ i, place = some i → p <+: xs.drop i) :
    (countRound p xs)^[countAt p xs place] (count, place) = (count + countAt p xs place, none) := by
  induction hrounds : countAt p xs place generalizing count place with
  | zero =>
    cases place with
    | none => rfl
    | some i =>
      have hfound := countFrom_of_prefix hne (hplace i rfl)
      rw [countAt, hfound] at hrounds
      omega
  | succ rounds ih =>
    cases place with
    | none => exact absurd hrounds (Nat.zero_ne_add_one rounds)
    | some i =>
      rw [countAt, countFrom_of_prefix hne (hplace i rfl), List.drop_drop, countFrom_drop,
        Nat.add_right_cancel_iff] at hrounds
      rw [Function.iterate_succ_apply, countRound, ih _ _ (fun j hj => prefix_of_placeFrom? hj) hrounds]
      exact Prod.ext (by omega) rfl

/-- For a pattern that is not empty the search, which looks for each occurrence behind the last one,
ends, and it has counted the most occurrences that can be had without overlaps. Where two texts are
put together these are as many as in both, or one more. -/
theorem countOccurrences_isGreatest {pattern : String} (hne : pattern ≠ "") (x y : String) :
    (countRound pattern.toList x.toList)^[countOccurrences x pattern]
        (0, placeFrom? pattern.toList x.toList 0) = (countOccurrences x pattern, none) ∧
      IsGreatest {n | ∃ places, IsPacking pattern.toList x.toList places ∧ places.card = n}
        (countOccurrences x pattern) ∧
      countOccurrences x pattern + countOccurrences y pattern ≤ countOccurrences (x ++ y) pattern ∧
      countOccurrences (x ++ y) pattern ≤
        countOccurrences x pattern + countOccurrences y pattern + 1 := by
  have hchars : pattern.toList ≠ [] := fun heq => hne (String.toList_eq_nil_iff.1 heq)
  unfold countOccurrences
  rw [String.toList_append]
  refine ⟨?_, countChars_isGreatest hchars _, countChars_append_ge hchars _ _,
    countChars_append_le hchars _ _⟩
  have hstart : countChars x.toList pattern.toList =
      countAt pattern.toList x.toList (placeFrom? pattern.toList x.toList 0) := by
    rw [countChars_of_ne_nil hchars, ← countFrom_drop, List.drop_zero]
  have hrounds := iterate_countRound hchars 0 (placeFrom? pattern.toList x.toList 0)
    fun i hi => prefix_of_placeFrom? hi
  rw [hstart, hrounds, Nat.zero_add]

/-- The pattern stands at two places of the text that overlap, so no more than one of them counts.
With one more letter behind the text it stands at a third place, across the seam. -/
theorem countOccurrences_isGreatest_overlapping :
    "aba" ≠ "" ∧ countOccurrences "ababab" "aba" = 1 ∧
      (countRound "aba".toList "ababab".toList)^[1] (0, some 0) = (1, none) ∧
      IsPacking "aba".toList "ababab".toList {2} ∧
      (∀ places, IsPacking "aba".toList "ababab".toList places → places.card ≤ 1) ∧
      countOccurrences ("ababab" ++ "a") "aba" = 2 ∧
      countOccurrences ("ababab" ++ "a") "aba" ≤
        countOccurrences "ababab" "aba" + countOccurrences "a" "aba" + 1 := by
  have hne : "aba" ≠ "" := by decide
  obtain ⟨hrounds, hgreatest, -, hle⟩ := countOccurrences_isGreatest hne "ababab" "a"
  have hone : countOccurrences "ababab" "aba" = 1 := by decide
  have hfirst : placeFrom? "aba".toList "ababab".toList 0 = some 0 := by decide
  rw [hone, hfirst] at hrounds
  rw [hone] at hgreatest
  exact ⟨hne, hone, hrounds, by decide, fun places h => hgreatest.2 ⟨places, h, rfl⟩, by decide, hle⟩

end StructureGrader.Text
