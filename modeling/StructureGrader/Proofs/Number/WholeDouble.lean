import StructureGrader.Number.Score
import Mathlib

/-!
# Whole numbers as doubles

A double that is not too small has a mantissa of 53 bits, the highest of which is set (`Normal`). A
whole number below `2 ^ 53` has such a mantissa when zeros are put behind it (`whole`), so nothing
of it is lost in a double, and the operations on doubles, which work on mantissas and exponents and
then round, can be followed on it.

Rounding drops zeros and nothing else where the bits fit (`Normal.round`, `round_whole`), and packing
a normal mantissa into the bits of a double keeps it (`Normal.unpack_pack`). So the double for a
whole number is the number itself (`ofNat_eq_whole`); one more is the next number (`ofNat_add_one`),
and a number over itself is one (`ofNat_div_self`).
-/

namespace StructureGrader.Number

open Float.Model (Format UnpackedFloat totalExponent)
open Float.Model.UnpackedFloat

/-! ## Mantissas -/

/-- A mantissa with all of its 53 bits, the highest of which is set. -/
structure Normal (q : ℕ) : Prop where
  le : 2 ^ 52 ≤ q
  lt : q < 2 ^ 53

variable {q n : ℕ} {e : ℤ}

/-- A normal significand is positive. -/
theorem Normal.pos (hq : Normal q) : 0 < q :=
  lt_of_lt_of_le (Nat.two_pow_pos 52) hq.le

/-- Each zero behind a number makes it longer by one bit. -/
theorem log2_mul_two_pow (hn : 0 < n) (k : ℕ) : (n * 2 ^ k).log2 = n.log2 + k := by
  induction k with
  | zero => rw [pow_zero, mul_one, add_zero]
  | succ k ih =>
    have hne : n * 2 ^ k ≠ 0 := (Nat.mul_pos hn (Nat.two_pow_pos k)).ne'
    rw [pow_succ, ← mul_assoc, mul_comm, Nat.log2_two_mul hne, ih, add_assoc]

/-- A normal significand has 53 binary digits. -/
theorem Normal.log2 (hq : Normal q) : q.log2 = 52 :=
  (Nat.log2_eq_iff hq.pos.ne').2 ⟨hq.le, hq.lt⟩

/-! ## Rounding -/

/-- Zeros at the end of a mantissa can be shifted out without a rest. -/
theorem shift_zeros (q k : ℕ) :
    (⟨q * 2 ^ k, false, false⟩ : ExtendedMantissa) >>> k = ⟨q, false, false⟩ := by
  induction k generalizing q with
  | zero => simp [HShiftRight.hShiftRight, Nat.repeat]
  | succ k ih =>
    -- All shifts but the last one leave a zero at the end.
    have hdouble : (⟨q * 2 ^ (k + 1), false, false⟩ : ExtendedMantissa) >>> k =
        ⟨2 * q, false, false⟩ := by
      rw [show q * 2 ^ (k + 1) = 2 * q * 2 ^ k by ring]
      exact ih (2 * q)
    show ((⟨q * 2 ^ (k + 1), false, false⟩ : ExtendedMantissa) >>> k).shiftRightOne = _
    rw [hdouble]
    simp [ExtendedMantissa.shiftRightOne]

/-- Rounding aims at the exponent with which the zeros behind a normal mantissa are gone. -/
theorem Normal.targetExponent (hq : Normal q) (k : ℕ) (he : -1074 ≤ e + k) :
    Format.binary64.targetExponent (totalExponent (q * 2 ^ k) e) = e + k := by
  rw [Format.targetExponent, totalExponent, log2_mul_two_pow hq.pos, hq.log2]
  simp only [Format.mantissaBits, Format.minExponent]
  push_cast
  omega

/-- Shifting to that exponent drops the zeros and leaves no rest. -/
theorem Normal.shift (hq : Normal q) (k : ℕ) (he : -1074 ≤ e + k) :
    shiftToTargetExponent Format.binary64 (q * 2 ^ k) e .exact =
      (⟨q, false, false⟩, e + k) := by
  have hamount : (e + k - e).toNat = k := by omega
  rw [shiftToTargetExponent, hq.targetExponent k he, shiftToExponent, hamount]
  exact Prod.ext (shift_zeros q k) rfl

/-- Rounding drops the zeros behind a normal mantissa and nothing else. -/
theorem Normal.round (hq : Normal q) (k : ℕ) (he : -1074 ≤ e + k) :
    roundWithAccuracy Format.binary64 .positive (q * 2 ^ k) e .exact =
      .finite .positive q (e + k) hq.pos := by
  -- The mantissa is shifted once more after it has been rounded, which finds no zeros to drop.
  have hagain := hq.shift (e := e + k) 0 (by simpa using he)
  simp only [pow_zero, mul_one, Nat.cast_zero, add_zero] at hagain
  rw [roundWithAccuracy, hq.shift k he]
  simp only [ExtendedMantissa.roundedMantissa, ExtendedMantissa.accuracy,
    Accuracy.roundToNearestEven, hagain]
  exact dif_neg hq.pos.ne'

/-! ## Bits -/

/-- The highest bit of a normal mantissa is not stored, and put back. -/
theorem Normal.toNat_append (hq : Normal q) : (1#1 ++ BitVec.ofNat 52 q).toNat = q := by
  have hlow : q % 2 ^ 52 < 2 ^ 52 := Nat.mod_lt _ (Nat.two_pow_pos 52)
  have hhigh : q / 2 ^ 52 = 1 := Nat.div_eq_of_lt_le (by simpa using hq.le) hq.lt
  have hsplit : q / 2 ^ 52 * 2 ^ 52 + q % 2 ^ 52 = q := Nat.div_add_mod' q (2 ^ 52)
  rw [hhigh] at hsplit
  rw [BitVec.toNat_append, BitVec.toNat_ofNat q, ← Nat.shiftLeft_add_eq_or_of_lt hlow,
    Nat.shiftLeft_eq]
  exact hsplit

/-- A double with a normal mantissa is the same again when it is packed and unpacked. -/
theorem Normal.unpack_pack (hq : Normal q) (hlow : -1074 ≤ e) (hhigh : e ≤ 971) :
    (Float.Model.pack (.finite .positive q e hq.pos)).unpack = .finite .positive q e hq.pos := by
  have hbias : ((Format.binary64.exponentBias : ℕ) : ℤ) = 1023 := rfl
  -- The stored exponent `b` is neither the least nor the greatest one, which have other meanings.
  obtain ⟨b, hb⟩ : ∃ b : ℕ, e + 1075 = b := ⟨(e + 1075).toNat, by omega⟩
  have hbits : (e + Format.binary64.exponentBias + (52 : ℕ)).toNat = b := by omega
  have hstored : (BitVec.ofNat 11 b).toNat = b := by
    rw [BitVec.toNat_ofNat, Nat.mod_eq_of_lt (by omega)]
  have hne : ∀ c : BitVec 11, b ≠ c.toNat → BitVec.ofNat 11 b ≠ c := by
    rintro c hc rfl
    exact hc hstored.symm
  have hnormal : BitVec.ofNat 11 b ≠ 0#11 := hne 0#11 (by rw [BitVec.toNat_zero]; omega)
  have hfinite : BitVec.ofNat 11 b ≠ -1#11 := by
    have hgreatest : (-1#11).toNat = 2047 := rfl
    exact hne (-1#11) (by omega)
  have hpack : UnpackedFloat.pack Format.binary64 (.finite .positive q e hq.pos) =
      packComponents Format.binary64 .positive (BitVec.ofNat 11 b) (BitVec.ofNat 52 q) := by
    simp only [UnpackedFloat.pack, hbits, hq.log2]
    exact (if_neg (by omega)).trans (if_pos rfl)
  have hexponent : (b : ℤ) - (Format.binary64.exponentBias + (52 : ℕ)) = e := by omega
  show UnpackedFloat.unpack Format.binary64 (UnpackedFloat.pack Format.binary64 _) = _
  rw [hpack]
  simp only [UnpackedFloat.unpack, unpackMantissa_packComponents, unpackExponent_packComponents,
    unpackSign_packComponents, if_neg hfinite, if_neg hnormal, hstored, hexponent,
    hq.toNat_append]
  rfl

/-! ## Whole numbers -/

/-- A number below two to the 53 has at most 53 binary digits. -/
theorem log2_le_of_lt (hn : 0 < n) (hlt : n < 2 ^ 53) : n.log2 ≤ 52 :=
  Nat.le_of_lt_succ ((Nat.log2_lt hn.ne').2 hlt)

/-- The 53 bits of a whole number: as many zeros as are needed stand behind it. -/
theorem normal_shift (hn : 0 < n) (hlt : n < 2 ^ 53) : Normal (n * 2 ^ (52 - n.log2)) := by
  have hlog := log2_le_of_lt hn hlt
  constructor
  · calc 2 ^ 52 = 2 ^ n.log2 * 2 ^ (52 - n.log2) := by rw [← pow_add]; congr 1; omega
      _ ≤ n * 2 ^ (52 - n.log2) := Nat.mul_le_mul_right _ (Nat.log2_self_le hn.ne')
  · calc n * 2 ^ (52 - n.log2) < 2 ^ (n.log2 + 1) * 2 ^ (52 - n.log2) :=
          Nat.mul_lt_mul_of_pos_right Nat.lt_log2_self (Nat.two_pow_pos _)
      _ = 2 ^ 53 := by rw [← pow_add]; congr 1; omega

/-- A whole number as a double taken apart. -/
def whole (n : ℕ) (hn : 0 < n) : UnpackedFloat :=
  .finite .positive (n * 2 ^ (52 - n.log2)) (n.log2 - 52) (Nat.mul_pos hn (Nat.two_pow_pos _))

/-- A whole number below two to the 53 is stored as a double without loss. -/
theorem unpack_whole (hn : 0 < n) (hlt : n < 2 ^ 53) :
    (Float.Model.pack (whole n hn)).unpack = whole n hn := by
  have hlog := log2_le_of_lt hn hlt
  exact (normal_shift hn hlt).unpack_pack (by omega) (by omega)

/-- A whole number with zeros behind it, and an exponent that takes them back, is rounded to that
number. -/
theorem round_whole (hn : 0 < n) (hlt : n < 2 ^ 53) (j : ℕ) :
    UnpackedFloat.round Format.binary64 .positive (n * 2 ^ j) (-j) = whole n hn := by
  have hlog := log2_le_of_lt hn hlt
  -- Zeros are put behind the number where it is too short, and dropped where it is too long.
  have htarget : Format.binary64.targetExponent (totalExponent (n * 2 ^ j) (-j)) =
      n.log2 - 52 := by
    rw [Format.targetExponent, totalExponent, log2_mul_two_pow hn]
    simp only [Format.mantissaBits, Format.minExponent]
    push_cast
    omega
  have hamount : (-(j : ℤ) - (n.log2 - 52)).toNat = 52 - n.log2 - j := by omega
  have hmantissa : (n * 2 ^ j) <<< (52 - n.log2 - j) =
      n * 2 ^ (52 - n.log2) * 2 ^ (n.log2 + j - 52) := by
    rw [Nat.shiftLeft_eq, mul_assoc, mul_assoc, ← pow_add, ← pow_add]
    congr 2
    omega
  have hexponent : -(j : ℤ) - (52 - n.log2 - j : ℕ) + (n.log2 + j - 52 : ℕ) = n.log2 - 52 := by
    omega
  rw [UnpackedFloat.round]
  simp only [htarget, decreaseExponent, hamount, hmantissa]
  rw [(normal_shift hn hlt).round _ (by omega), whole]
  simp only [hexponent]

/-- A sum above zero is rounded as it is. -/
theorem normalize_natCast (hn : 0 < n) (spec : Format) (zeroSign : Sign) :
    UnpackedFloat.normalize spec n e zeroSign = UnpackedFloat.round spec .positive n e := by
  have hcompare : compare (n : ℤ) 0 = .gt := by
    rw [compare_gt_iff_gt]
    exact_mod_cast hn
  rw [UnpackedFloat.normalize, hcompare]
  simp only [Int.toNat_natCast]

/-- The next whole number, by the addition of doubles. -/
theorem add_whole (hn : 0 < n) (hlt : n + 1 < 2 ^ 53) :
    UnpackedFloat.add Format.binary64 (whole n hn) (whole 1 one_pos) =
      whole (n + 1) n.succ_pos := by
  have hlog := log2_le_of_lt hn (by omega)
  have hone : (1 : ℕ).log2 = 0 := rfl
  -- One has the smaller exponent, so the other mantissa is brought to it.
  have hmin : min ((n.log2 : ℤ) - 52) (((1 : ℕ).log2 : ℤ) - 52) = -52 := by omega
  have hfirst : ((n.log2 : ℤ) - 52 - -52).toNat = n.log2 := by omega
  have hsecond : (((1 : ℕ).log2 : ℤ) - 52 - -52).toNat = 0 := by omega
  have hmantissa : (n * 2 ^ (52 - n.log2)) <<< n.log2 = n * 2 ^ 52 := by
    rw [Nat.shiftLeft_eq, mul_assoc, ← pow_add]
    congr 2
    omega
  have hsum : ((n * 2 ^ 52 : ℕ) : ℤ) + ((1 * 2 ^ (52 - (1 : ℕ).log2)) <<< 0 : ℕ) =
      ((n + 1) * 2 ^ 52 : ℕ) := by
    rw [hone]
    push_cast
    ring
  rw [whole, whole, UnpackedFloat.add]
  simp only [hmin, decreaseExponent, hfirst, hsecond, hmantissa, Sign.apply, hsum]
  rw [normalize_natCast (Nat.mul_pos n.succ_pos (Nat.two_pow_pos 52))]
  exact round_whole n.succ_pos hlt 52

/-- A whole number over itself is one. -/
theorem div_whole (hn : 0 < n) (hlt : n < 2 ^ 53) :
    UnpackedFloat.div Format.binary64 (whole n hn) (whole n hn) = whole 1 one_pos := by
  have hnormal := normal_shift hn hlt
  rw [whole, UnpackedFloat.div]
  -- Equal mantissas have the quotient one, computed with 53 more bits.
  generalize n * 2 ^ (52 - n.log2) = q at hnormal
  have hcore : divCore Format.binary64 q (n.log2 - 52) q (n.log2 - 52) = (2 ^ 53, -53, .exact) := by
    have htarget : min ((n.log2 : ℤ) - 52 - (n.log2 - 52)) (Format.binary64.targetExponent
        (totalExponent q (n.log2 - 52) - totalExponent q (n.log2 - 52))) = -53 := by
      simp only [sub_self, Format.targetExponent, Format.mantissaBits, Format.minExponent]
      rfl
    have hamount : ((n.log2 : ℤ) - 52 - (n.log2 - 52) - -53).toNat = 53 := by omega
    simp only [divCore, htarget, hamount, Nat.shiftLeft_eq]
    rw [Nat.mul_div_cancel_left _ hnormal.pos, Nat.mul_mod_right]
    rfl
  simp only [hcore]
  have hround := (Normal.mk (le_refl (2 ^ 52)) (by norm_num)).round (e := -53) 1 (by norm_num)
  exact hround

/-- Normal mantissas are multiplied by that of one by putting 52 zeros behind them. -/
theorem mul_whole_one (hn : 0 < n) (hlt : n < 2 ^ 53) :
    UnpackedFloat.mul Format.binary64 (whole n hn) (whole 1 one_pos) = whole n hn := by
  have hlog := log2_le_of_lt hn hlt
  have hexponent : (n.log2 : ℤ) - 52 + (((1 : ℕ).log2 : ℤ) - 52) + (52 : ℕ) = n.log2 - 52 := by
    rw [show (1 : ℕ).log2 = 0 from rfl]
    omega
  have hround := (normal_shift hn hlt).round (e := (n.log2 : ℤ) - 52 + (((1 : ℕ).log2 : ℤ) - 52)) 52
    (by omega)
  simp only [hexponent] at hround
  exact hround

/-! ## Counting -/

/-- The double for a whole number, which is computed from the 64-bit word for it, times one. -/
theorem ofNat_eq_whole (hn : 0 < n) (hlt : n < 2 ^ 53) :
    Float.ofNat n = .ofModel (.pack (whole n hn)) := by
  have hone : Float.exactlyRepresentablePowersOfTen[0] = .ofModel (.pack (whole 1 one_pos)) := by
    decide +kernel
  have hword : n.toUInt64.toNat = n := by
    rw [Nat.toUInt64, UInt64.toNat_ofNat', Nat.mod_eq_of_lt (by omega)]
  have hfloat : n.toUInt64.toFloat = .ofModel (.pack (whole n hn)) := by
    have hround := round_whole hn hlt 0
    rw [pow_zero, mul_one, Nat.cast_zero, neg_zero] at hround
    rw [UInt64.toFloat, Float.Model.ofUInt64, UnpackedFloat.ofUInt64, hword, UnpackedFloat.ofNat,
      UnpackedFloat.ofInt, normalize_natCast hn, hround]
  show Float.ofScientific n false 0 = _
  rw [Float.ofScientific, dif_pos ⟨hlt, by decide⟩]
  simp only [Bool.false_eq_true, if_false, hfloat, hone]
  show Float.ofModel (.pack (UnpackedFloat.mul _ (Float.Model.unpack _) (Float.Model.unpack _))) = _
  rw [unpack_whole hn hlt, unpack_whole one_pos (by norm_num), mul_whole_one hn hlt]

/-- One more than a whole double is the next whole number, below two to the 53. -/
theorem ofNat_add_one (hn : 0 < n) (hlt : n + 1 < 2 ^ 53) :
    Float.ofNat n + Float.ofNat 1 = Float.ofNat (n + 1) := by
  rw [ofNat_eq_whole hn (by omega), ofNat_eq_whole one_pos (by norm_num),
    ofNat_eq_whole n.succ_pos hlt]
  show Float.ofModel (.pack (UnpackedFloat.add _ (Float.Model.unpack _) (Float.Model.unpack _))) = _
  rw [unpack_whole hn (by omega), unpack_whole one_pos (by norm_num), add_whole hn hlt]

/-- A positive whole double divided by itself is one. -/
theorem ofNat_div_self (hn : 0 < n) (hlt : n < 2 ^ 53) :
    Float.ofNat n / Float.ofNat n = Float.ofNat 1 := by
  rw [ofNat_eq_whole hn hlt, ofNat_eq_whole one_pos (by norm_num)]
  show Float.ofModel (.pack (UnpackedFloat.div _ (Float.Model.unpack _) (Float.Model.unpack _))) = _
  rw [unpack_whole hn hlt, div_whole hn hlt]

end StructureGrader.Number
