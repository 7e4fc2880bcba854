import StructureGrader.Comparison
import Mathlib.Algebra.Field.Rat

/-!
# Numbers that show a division by zero

Over the rational numbers as they stand every division has a result, also one by zero. A `Checked`
number is a rational number or what a division by zero comes to, and an operation on the latter
comes to it again. So a computation that ends in a number on checked numbers has divided by nothing
but numbers other than zero, and it has the result that it has on the rational numbers.

The three similarities divide by the length of a text or a list that is not empty
(`textSimilarity_number`, `featureSimilarity_number`), the overall similarity by the number of pairs
and by the size of the larger side, neither of which is zero where it divides
(`overallSimilarity_number`).
-/

namespace StructureGrader

open ScoreNumber

/-- A rational number, or what a division by zero comes to. -/
inductive Checked
  | number (x : Rat)
  | undefined
deriving DecidableEq, Repr

namespace Checked

/-- An operation that needs two numbers. -/
def lift (f : Rat → Rat → Rat) : Checked → Checked → Checked
  | number x, number y => number (f x y)
  | _, _ => undefined

/-- A division, which needs a divisor other than zero. -/
def divide : Checked → Checked → Checked
  | number x, number y => if y = 0 then undefined else number (x / y)
  | _, _ => undefined

/-- A comparison of two numbers. With anything else it holds, so that neither bound of a number
hides that it is none. -/
def compares (r : Rat → Rat → Prop) : Checked → Checked → Prop
  | number x, number y => r x y
  | _, _ => True

instance (r : Rat → Rat → Prop) [DecidableRel r] : DecidableRel (compares r)
  | number x, number y => inferInstanceAs (Decidable (r x y))
  | number _, undefined => inferInstanceAs (Decidable True)
  | undefined, number _ => inferInstanceAs (Decidable True)
  | undefined, undefined => inferInstanceAs (Decidable True)

instance : ScoreNumber Checked where
  add := lift (· + ·)
  sub := lift (· - ·)
  mul := lift (· * ·)
  div := divide
  lt := compares (· < ·)
  le := compares (· ≤ ·)
  ofNat n := number (ofNat n)
  decimal digits places := number (decimal digits places)
  floor
    | number x => ScoreNumber.floor x
    | undefined => 0
  isFinite
    | number _ => true
    | undefined => false
  decideLT := inferInstanceAs (DecidableRel (compares _))
  decideLE := inferInstanceAs (DecidableRel (compares _))

/-! ## The operations on numbers -/

section Operations

variable (x y : Rat) (n : Nat)

/-- The sum of two numbers is a number. -/
@[simp] theorem number_add : number x + number y = number (x + y) := rfl

/-- The difference of two numbers is a number. -/
@[simp] theorem number_sub : number x - number y = number (x - y) := rfl

/-- The product of two numbers is a number. -/
@[simp] theorem number_mul : number x * number y = number (x * y) := rfl

/-- Numbers are compared, for less, as their values are. -/
@[simp] theorem number_lt : number x < number y ↔ x < y := Iff.rfl

/-- Numbers are compared, for at most, as their values are. -/
@[simp] theorem number_le : number x ≤ number y ↔ x ≤ y := Iff.rfl

/-- A whole number is a number. -/
@[simp] theorem ofNat_eq : (ofNat n : Checked) = number (ofNat n) := rfl

/-- A decimal constant is a number. -/
@[simp] theorem decimal_eq (digits places : Nat) :
    (decimal digits places : Checked) = number (decimal digits places) := rfl

/-- Zero is a number. -/
@[simp] theorem zero_eq : (zero : Checked) = number zero := rfl

/-- One is a number. -/
@[simp] theorem one_eq : (one : Checked) = number one := rfl

/-- The quotient of two numbers is a number where the divisor is not zero. -/
theorem number_div {y : Rat} (h : y ≠ 0) : number x / number y = number (x / y) :=
  if_neg h

/-- Division by a count that counts something. -/
theorem number_div_ofNat {n : Nat} (h : n ≠ 0) :
    number x / number (ofNat n) = number (x / ofNat n) :=
  number_div _ (Nat.cast_ne_zero.2 h)

/-- A number cut off from above is a number. -/
@[simp] theorem atMost_number : atMost (number x) (number y) = number (atMost x y) := by
  rw [atMost, atMost, apply_ite number]
  simp only [number_lt]

/-- A number cut off from below is a number. -/
@[simp] theorem atLeast_number : atLeast (number x) (number y) = number (atLeast x y) := by
  rw [atLeast, atLeast, apply_ite number]
  simp only [number_lt]

/-- Numbers summed up onto a number are one. -/
theorem foldl_add_number (xs : List Rat) :
    (xs.map number).foldl (· + ·) (number x) = number (xs.foldl (· + ·) x) := by
  induction xs generalizing x with
  | nil => rfl
  | cons y ys ih => exact ih (x + y)

/-- The sum of numbers is a number. -/
@[simp] theorem sum_number (xs : List Rat) : sum (xs.map number) = number (sum xs) :=
  foldl_add_number _ xs

end Operations

/-! ## Similarities -/

/-- Two different texts are not both empty. -/
theorem max_length_ne_zero {a b : String} (h : a ≠ b) : max a.length b.length ≠ 0 := by
  intro hmax
  have ha : a.length = 0 := by omega
  have hb : b.length = 0 := by omega
  rw [String.length_eq_zero_iff] at ha hb
  exact h (ha.trans hb.symm)

/-- The similarity of two texts is a number, since no divisor in it is zero. -/
theorem textSimilarity_number (a b : String) :
    (textSimilarity a b : Checked) = number (textSimilarity a b) := by
  rw [textSimilarity, textSimilarity]
  by_cases h : a = b
  · simp [h]
  · simp only [beq_iff_eq, h, if_false, ofNat_eq, number_div_ofNat _ (max_length_ne_zero h),
      zero_eq, one_eq, number_sub, atLeast_number]

/-- The similarity of two lists of features is a number, since no divisor in it is zero. -/
theorem featureSimilarity_number (a b : List String) :
    (featureSimilarity a b : Checked) = number (featureSimilarity a b) := by
  rw [featureSimilarity, featureSimilarity]
  by_cases hboth : (a.isEmpty && b.isEmpty) = true
  · rw [if_pos hboth, if_pos hboth, one_eq]
  by_cases hone : (a.isEmpty || b.isEmpty) = true
  · rw [if_neg hboth, if_pos hone, if_neg hboth, if_pos hone, zero_eq]
  -- Here neither list is empty, so neither is the longer one.
  · have hmax : max a.length b.length ≠ 0 := by
      rw [Bool.or_eq_true, List.isEmpty_iff, not_or, ← List.length_eq_zero_iff] at hone
      omega
    rw [if_neg hboth, if_neg hone, if_neg hboth, if_neg hone, ofNat_eq, ofNat_eq,
      number_div_ofNat _ hmax]

/-- The similarity of texts that may be missing is a number where that of texts is. -/
theorem similarityOfMissing_number {f : String → String → Checked} {g : String → String → Rat}
    (h : ∀ a b, f a b = number (g a b)) (a b : Option String) :
    similarityOfMissing f a b = number (similarityOfMissing g a b) := by
  cases a <;> cases b <;> simp [similarityOfMissing, h]

/-- The weights as checked numbers. -/
def weights (w : Weights Rat) : Weights Checked :=
  ⟨number w.forSignature, number w.forName, number w.forStructure⟩

/-- The default weights are the same. -/
theorem weights_default : weights Weights.default = Weights.default := rfl

/-- The score of any two elements is a number. -/
theorem score_number (w : Weights Rat) (a b : Element) :
    (weights w).score a b = number (w.score a b) := by
  have htext : ∀ x y, (normalizedSimilarity x y : Checked) = number (normalizedSimilarity x y) :=
    similarityOfMissing_number textSimilarity_number
  have hstructure : ∀ x y,
      (structuralSimilarity x y : Checked) = number (structuralSimilarity x y) :=
    similarityOfMissing_number fun x y => featureSimilarity_number (codeFeatures x) (codeFeatures y)
  simp [Weights.score, weights, htext, hstructure]

end Checked

/-! ## The overall similarity -/

section Overall

variable {α : Type} [ScoreNumber α] {similarities : List α} {students references : Nat}

/-- Without any pair the overall similarity is zero, whatever the elements. -/
theorem overallSimilarity_nil (students references : Int) :
    overallSimilarity ([] : List α) students references = zero :=
  rfl

/-- The larger of two counts is a count. -/
theorem ofInt_max (m n : Nat) : (ofInt (max (m : Int) n) : α) = ofNat (max m n) := by
  have hmax : max (m : Int) n = (max m n : Nat) := by omega
  rw [hmax]
  rfl

/-- Where there are pairs, their mean similarity is scaled by the share of the larger side. -/
theorem overallSimilarity_of_ne (hsome : similarities ≠ []) (hstudents : students ≠ 0) :
    overallSimilarity similarities students references =
      sum similarities / ofNat similarities.length *
        (ofNat similarities.length / ofNat (max students references)) := by
  have hnone : (similarities.isEmpty || (students : Int) == 0) = false := by
    simp [hsome, hstudents]
  rw [overallSimilarity, hnone, if_neg Bool.false_ne_true, ofInt_max]

end Overall

/-- Of two sides that are counted the overall similarity is a number. -/
theorem Checked.overallSimilarity_number {similarities : List Rat} {students : Nat}
    (h : similarities ≠ [] → students ≠ 0) (references : Nat) :
    overallSimilarity (similarities.map number) students references =
      number (overallSimilarity similarities students references) := by
  by_cases hsome : similarities = []
  · rw [hsome, List.map_nil, overallSimilarity_nil, overallSimilarity_nil, zero_eq]
  · have hmap : similarities.map number ≠ [] := by simpa using hsome
    have hcount : similarities.length ≠ 0 := by simpa using hsome
    have hlarger : max students references ≠ 0 := by
      have hstudents := h hsome
      omega
    rw [overallSimilarity_of_ne hmap (h hsome), overallSimilarity_of_ne hsome (h hsome),
      List.length_map, sum_number, ofNat_eq, ofNat_eq, number_div_ofNat _ hcount,
      number_div_ofNat _ hlarger, number_mul]

end StructureGrader
