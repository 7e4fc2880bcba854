import StructureGrader.Text.Encoding
import Mathlib.Data.List.Forall2
import Mathlib.Tactic.SplitIfs

/-!
# The format of UTF-8

A character is written in one to four bytes, of which the first one says how many follow
(`CharBytes`). It has no other way of being written, so a first byte whose character would fit into
fewer bytes is out, and so are the numbers that belong to no character: the surrogates, and all from
U+110000 on. Such sequences are just the ones that characters are written in (`charBytes_of_encode`,
`CharBytes.exists_char`), and what is put together from them are the texts in UTF-8
(`isUtf8_toList_iff`).

The search for a fault knows the same sequences by the ranges of their bytes (`charBytes_iff`). It finds
no fault in what is put together from them, and one in all other bytes (`utf8FaultFrom_eq_none_iff`).
-/

namespace StructureGrader.Text

/-! ## Sequences of bytes -/

/-- A byte that is not the first one of a character. -/
def IsTail (b : UInt8) : Prop :=
  0x80 ≤ b.toNat ∧ b.toNat ≤ 0xBF

/-- The bytes of one character, the first one apart. -/
inductive CharBytes : UInt8 → List UInt8 → Prop
  | one {a : UInt8} (first : a.toNat < 0x80) : CharBytes a []
  | two {a b : UInt8} (first : 0xC2 ≤ a.toNat ∧ a.toNat < 0xE0) (tail : IsTail b) : CharBytes a [b]
  | three {a b c : UInt8} (first : 0xE0 ≤ a.toNat ∧ a.toNat < 0xF0) (tail : IsTail b ∧ IsTail c)
      (short : a.toNat = 0xE0 → 0xA0 ≤ b.toNat) (surrogate : a.toNat = 0xED → b.toNat < 0xA0) :
      CharBytes a [b, c]
  | four {a b c d : UInt8} (first : 0xF0 ≤ a.toNat ∧ a.toNat < 0xF5)
      (tail : IsTail b ∧ IsTail c ∧ IsTail d) (short : a.toNat = 0xF0 → 0x90 ≤ b.toNat)
      (large : a.toNat = 0xF4 → b.toNat < 0x90) : CharBytes a [b, c, d]

/-- Bytes that are put together from those of characters. -/
inductive IsUtf8 : List UInt8 → Prop
  | nil : IsUtf8 []
  | cons {first : UInt8} {behind rest : List UInt8} (char : CharBytes first behind)
      (more : IsUtf8 rest) : IsUtf8 (first :: (behind ++ rest))

variable {first : UInt8} {behind bs : List UInt8}

/-! ## Characters and their bytes -/

/-- The encoding of a character is the bytes of one character. -/
theorem charBytes_of_encode {c : Char} (h : String.utf8EncodeChar c = first :: behind) :
    CharBytes first behind := by
  have hvalid : c.val.toNat < 0xD800 ∨ 0xDFFF < c.val.toNat ∧ c.val.toNat < 0x110000 := c.valid
  unfold String.utf8EncodeChar at h
  dsimp only at h
  generalize c.val.toNat = v at h hvalid
  split_ifs at h <;> obtain ⟨rfl, rfl⟩ := List.cons.inj h
  · refine .one ?_
    rw [UInt8.toNat_ofNat']
    omega
  · refine .two ?_ ?_ <;> simp only [IsTail, UInt8.toNat_ofNat'] <;> omega
  · refine .three ?_ ?_ ?_ ?_ <;> simp only [IsTail, UInt8.toNat_ofNat'] <;> omega
  · refine .four ?_ ?_ ?_ ?_ <;> simp only [IsTail, UInt8.toNat_ofNat'] <;> omega

/-- Every number but those of the surrogates, up to the last one, is that of a character. -/
theorem exists_char_val {v : Nat} (h : v < 0xD800 ∨ 0xDFFF < v ∧ v < 0x110000) :
    ∃ c : Char, c.val.toNat = v := by
  refine ⟨Char.ofNat v, ?_⟩
  rw [Char.ofNat, dif_pos h]
  rfl

/-- The bytes of a character give its number. -/
theorem CharBytes.exists_char (h : CharBytes first behind) :
    ∃ c : Char, String.utf8EncodeChar c = first :: behind := by
  cases h with
  | one hfirst =>
    obtain ⟨c, hc⟩ := exists_char_val (v := first.toNat) (by omega)
    refine ⟨c, ?_⟩
    simp only [String.utf8EncodeChar, hc]
    rw [if_pos (by omega), UInt8.ofNat_toNat]
  | @two b hfirst htail =>
    -- The bits of the bytes put together; dividing them out again gives the bytes back.
    unfold IsTail at htail
    obtain ⟨c, hc⟩ := exists_char_val (v := (first.toNat - 0xC0) * 64 + (b.toNat - 0x80)) (by omega)
    refine ⟨c, ?_⟩
    simp only [String.utf8EncodeChar, hc]
    rw [if_neg (by omega), if_pos (by omega)]
    simp only [List.cons.injEq, and_true, ← UInt8.toNat_inj, UInt8.toNat_ofNat']
    omega
  | @three b c hfirst htail hshort hsurrogate =>
    unfold IsTail at htail
    obtain ⟨char, hchar⟩ := exists_char_val
      (v := (first.toNat - 0xE0) * 4096 + (b.toNat - 0x80) * 64 + (c.toNat - 0x80)) (by omega)
    refine ⟨char, ?_⟩
    simp only [String.utf8EncodeChar, hchar]
    rw [if_neg (by omega), if_neg (by omega), if_pos (by omega)]
    simp only [List.cons.injEq, and_true, ← UInt8.toNat_inj, UInt8.toNat_ofNat']
    omega
  | @four b c d hfirst htail hshort hlarge =>
    unfold IsTail at htail
    obtain ⟨char, hchar⟩ := exists_char_val
      (v := (first.toNat - 0xF0) * 262144 + (b.toNat - 0x80) * 4096 + (c.toNat - 0x80) * 64 +
        (d.toNat - 0x80)) (by omega)
    refine ⟨char, ?_⟩
    simp only [String.utf8EncodeChar, hchar]
    rw [if_neg (by omega), if_neg (by omega), if_neg (by omega)]
    simp only [List.cons.injEq, and_true, ← UInt8.toNat_inj, UInt8.toNat_ofNat']
    omega

/-- Bytes are UTF-8 when some characters are written in them. -/
theorem isUtf8_iff : IsUtf8 bs ↔ ∃ cs : List Char, bs = cs.flatMap String.utf8EncodeChar := by
  constructor
  · intro h
    induction h with
    | nil => exact ⟨[], rfl⟩
    | cons hchar _ ih =>
      obtain ⟨c, hc⟩ := hchar.exists_char
      obtain ⟨cs, rfl⟩ := ih
      exact ⟨c :: cs, by rw [List.flatMap_cons, hc, List.cons_append]⟩
  · rintro ⟨cs, rfl⟩
    induction cs with
    | nil => exact .nil
    | cons c cs ih =>
      cases hc : String.utf8EncodeChar c with
      | nil => exact absurd hc String.utf8EncodeChar_ne_nil
      | cons first behind =>
        rw [List.flatMap_cons, hc, List.cons_append]
        exact .cons (charBytes_of_encode hc) ih

/-! ## The search for a fault -/

/-- The bytes behind a first byte lie in their ranges, one in each. -/
def LieIn (ranges : List (UInt8 × UInt8)) (behind : List UInt8) : Prop :=
  List.Forall₂ (fun range b => range.1 ≤ b ∧ b ≤ range.2) ranges behind

/-- No ranges allow no bytes. -/
theorem lieIn_nil : LieIn [] behind ↔ behind = [] :=
  List.forall₂_nil_left_iff

/-- The first byte lies in the first range and the others in theirs. -/
theorem lieIn_cons {low high : UInt8} {ranges : List (UInt8 × UInt8)} :
    LieIn ((low, high) :: ranges) behind ↔
      ∃ b rest, behind = b :: rest ∧ (low.toNat ≤ b.toNat ∧ b.toNat ≤ high.toNat) ∧
        LieIn ranges rest := by
  unfold LieIn
  rw [List.forall₂_cons_left_iff]
  simp only [UInt8.le_iff_toNat_le]
  constructor
  · rintro ⟨b, rest, hb, hrest, rfl⟩
    exact ⟨b, rest, rfl, hb, hrest⟩
  · rintro ⟨b, rest, rfl, hb, hrest⟩
    exact ⟨b, rest, hb, hrest, rfl⟩

/-- With two ranges there are two bytes, the second of them any that can follow. -/
theorem lieIn_two {low high : UInt8} :
    LieIn [(low, high), (0x80, 0xBF)] behind ↔
      ∃ b c, behind = [b, c] ∧ (low.toNat ≤ b.toNat ∧ b.toNat ≤ high.toNat) ∧ IsTail c := by
  simp only [lieIn_cons, lieIn_nil]
  constructor
  · rintro ⟨b, _, rfl, hb, c, _, rfl, hc, rfl⟩
    exact ⟨b, c, rfl, hb, hc⟩
  · rintro ⟨b, c, rfl, hb, hc⟩
    exact ⟨b, _, rfl, hb, c, _, rfl, hc, rfl⟩

/-- With three ranges there are three bytes, the last two of them any that can follow. -/
theorem lieIn_three {low high : UInt8} :
    LieIn [(low, high), (0x80, 0xBF), (0x80, 0xBF)] behind ↔
      ∃ b c d, behind = [b, c, d] ∧ (low.toNat ≤ b.toNat ∧ b.toNat ≤ high.toNat) ∧
        IsTail c ∧ IsTail d := by
  rw [lieIn_cons]
  simp only [lieIn_two]
  constructor
  · rintro ⟨b, _, rfl, hb, c, d, rfl, hc, hd⟩
    exact ⟨b, c, d, rfl, hb, hc, hd⟩
  · rintro ⟨b, c, d, rfl, hb, hc, hd⟩
    exact ⟨b, _, rfl, hb, c, d, rfl, hc, hd⟩

/-- Two bytes in their ranges, behind a fitting first byte, make a character of three. -/
theorem charBytes_of_two {low high : UInt8} (h : LieIn [(low, high), (0x80, 0xBF)] behind)
    (hfirst : 0xE0 ≤ first.toNat ∧ first.toNat < 0xF0)
    (hrange : 0x80 ≤ low.toNat ∧ high.toNat ≤ 0xBF) (hshort : first.toNat = 0xE0 → 0xA0 ≤ low.toNat)
    (hsurrogate : first.toNat = 0xED → high.toNat < 0xA0) : CharBytes first behind := by
  obtain ⟨b, c, rfl, hb, hc⟩ := lieIn_two.mp h
  exact .three hfirst ⟨⟨by omega, by omega⟩, hc⟩ (by omega) (by omega)

/-- Three bytes in their ranges, behind a fitting first byte, make a character of four. -/
theorem charBytes_of_three {low high : UInt8}
    (h : LieIn [(low, high), (0x80, 0xBF), (0x80, 0xBF)] behind)
    (hfirst : 0xF0 ≤ first.toNat ∧ first.toNat < 0xF5)
    (hrange : 0x80 ≤ low.toNat ∧ high.toNat ≤ 0xBF) (hshort : first.toNat = 0xF0 → 0x90 ≤ low.toNat)
    (hlarge : first.toNat = 0xF4 → high.toNat < 0x90) : CharBytes first behind := by
  obtain ⟨b, c, d, rfl, hb, hcd⟩ := lieIn_three.mp h
  exact .four hfirst ⟨⟨by omega, by omega⟩, hcd⟩ (by omega) (by omega)

/-- The ranges behind a first byte leave out just what no character is written in. -/
theorem charBytes_iff :
    CharBytes first behind ↔ ∃ ranges, followRanges first = some ranges ∧ LieIn ranges behind := by
  simp only [followRanges, UInt8.lt_iff_toNat_lt, beq_iff_eq, ← UInt8.toNat_inj, UInt8.reduceToNat]
  constructor
  · intro h
    cases h with
    | one hfirst => exact ⟨_, if_pos hfirst, .nil⟩
    | @two b hfirst htail =>
      rw [if_neg (by omega), if_neg (by omega), if_pos hfirst.2]
      exact ⟨_, rfl, lieIn_cons.mpr ⟨b, [], rfl, htail, .nil⟩⟩
    | @three b c hfirst htail hshort hsurrogate =>
      rw [if_neg (by omega), if_neg (by omega), if_neg (by omega)]
      -- Overlong forms, surrogates and numbers that are too large are cut off by the range of the
      -- second byte.
      split_ifs with hE0 hED hF0 hF0 hF4 hF4
      · exact ⟨_, rfl, lieIn_two.mpr ⟨b, c, rfl, ⟨hshort hE0, htail.1.2⟩, htail.2⟩⟩
      · have hb : b.toNat ≤ 0x9F := Nat.le_of_lt_succ (hsurrogate hED)
        exact ⟨_, rfl, lieIn_two.mpr ⟨b, c, rfl, ⟨htail.1.1, hb⟩, htail.2⟩⟩
      · exact ⟨_, rfl, lieIn_two.mpr ⟨b, c, rfl, htail.1, htail.2⟩⟩
      all_goals omega
    | @four b c d hfirst htail hshort hlarge =>
      rw [if_neg (by omega), if_neg (by omega), if_neg (by omega), if_neg (by omega),
        if_neg (by omega), if_neg (by omega)]
      split_ifs with hF0 hless hF4
      · exact ⟨_, rfl, lieIn_three.mpr ⟨b, c, d, rfl, ⟨hshort hF0, htail.1.2⟩, htail.2⟩⟩
      · exact ⟨_, rfl, lieIn_three.mpr ⟨b, c, d, rfl, htail.1, htail.2⟩⟩
      · have hb : b.toNat ≤ 0x8F := Nat.le_of_lt_succ (hlarge hF4)
        exact ⟨_, rfl, lieIn_three.mpr ⟨b, c, d, rfl, ⟨htail.1.1, hb⟩, htail.2⟩⟩
      · omega
  · rintro ⟨ranges, hranges, hbehind⟩
    split_ifs at hranges
    all_goals cases hranges
    · cases hbehind
      exact .one ‹_›
    · obtain ⟨b, _, rfl, hb, hnil⟩ := lieIn_cons.mp hbehind
      cases hnil
      exact .two (by omega) hb
    · exact charBytes_of_two hbehind (by omega) (by decide) (fun _ => by decide) (by omega)
    · exact charBytes_of_two hbehind (by omega) (by decide) (by omega) (fun _ => by decide)
    · exact charBytes_of_two hbehind (by omega) (by decide) (by omega) (by omega)
    · exact charBytes_of_three hbehind (by omega) (by decide) (fun _ => by decide) (by omega)
    · exact charBytes_of_three hbehind (by omega) (by decide) (by omega) (by omega)
    · exact charBytes_of_three hbehind (by omega) (by decide) (by omega) (fun _ => by decide)

/-- The first character of bytes in UTF-8 reaches as far as there are ranges behind its first byte.
-/
theorem isUtf8_cons :
    IsUtf8 (first :: bs) ↔ ∃ ranges, followRanges first = some ranges ∧
      LieIn ranges (bs.take ranges.length) ∧ IsUtf8 (bs.drop ranges.length) := by
  constructor
  · rintro (_ | @⟨_, behind, rest, hchar, hmore⟩)
    obtain ⟨ranges, hranges, hbehind⟩ := charBytes_iff.mp hchar
    refine ⟨ranges, hranges, ?_, ?_⟩
    · rwa [List.take_left' hbehind.length_eq.symm]
    · rwa [List.drop_left' hbehind.length_eq.symm]
  · rintro ⟨ranges, hranges, hbehind, hmore⟩
    rw [← List.take_append_drop ranges.length bs]
    exact .cons (charBytes_iff.mpr ⟨ranges, hranges, hbehind⟩) hmore

/-- As many bytes are found in their ranges as there are ranges, when there are so many that lie in
them. -/
theorem follow_eq_length_iff {ranges : List (UInt8 × UInt8)} :
    (follow ranges bs).1 = ranges.length ↔ LieIn ranges (bs.take ranges.length) := by
  fun_induction follow ranges bs with
  | case1 bs => exact iff_of_true rfl .nil
  | case2 range ranges => exact iff_of_false (by simp) (by rintro ⟨⟩)
  | case3 low high ranges b bs hb n ended hfollow ih =>
    rw [hfollow] at ih
    simp only [Bool.and_eq_true, decide_eq_true_eq] at hb
    simp only [List.length_cons, List.take_succ_cons, LieIn, List.forall₂_cons, hb, and_self,
      true_and, Nat.add_right_cancel_iff]
    exact ih
  | case4 low high ranges b bs hb =>
    simp only [Bool.and_eq_true, decide_eq_true_eq] at hb
    refine iff_of_false (by simp) fun h => hb ?_
    exact (List.forall₂_cons.mp h).1

/-- No fault is found in UTF-8, and one is in all other bytes. -/
theorem utf8FaultFrom_eq_none_iff (i skip : Nat) (bs : List UInt8) :
    utf8FaultFrom i skip bs = none ↔ IsUtf8 (bs.drop skip) := by
  fun_induction utf8FaultFrom i skip bs with
  | case1 i skip =>
    rw [List.drop_nil]
    exact iff_of_true rfl .nil
  | case2 i skip b bs ih => exact ih
  | case3 i b bs hnone =>
    refine iff_of_false (by simp) fun h => ?_
    obtain ⟨ranges, hranges, _⟩ := isUtf8_cons.mp h
    exact absurd hranges (by simp [hnone])
  | case4 i b bs ranges hranges n ended hfollow hall ih =>
    obtain rfl : n = ranges.length := by simpa using hall
    have hbehind : LieIn ranges (bs.take ranges.length) := follow_eq_length_iff.mp (by rw [hfollow])
    rw [ih, List.drop_zero, isUtf8_cons, hranges]
    constructor
    · exact fun h => ⟨ranges, rfl, hbehind, h⟩
    · rintro ⟨_, ⟨⟩, _, h⟩
      exact h
  | case5 i b bs ranges hranges n ended hfollow hall reason =>
    refine iff_of_false (by simp) fun h => hall ?_
    obtain ⟨_, hranges', hbehind, _⟩ := isUtf8_cons.mp h
    obtain rfl := Option.some.inj (hranges.symm.trans hranges')
    have hlength := follow_eq_length_iff.mpr hbehind
    rw [hfollow] at hlength
    exact beq_iff_eq.mpr hlength

/-! ## Texts and their bytes -/

/-- The loop over bytes lists those from its place on behind what it has. -/
theorem toList_loop (bytes : ByteArray) (i : Nat) (front : List UInt8) :
    ByteArray.toList.loop bytes i front = front.reverse ++ bytes.data.toList.drop i := by
  fun_induction ByteArray.toList.loop bytes i front with
  | case1 i front hi ih =>
    have hlength : i < bytes.data.toList.length := hi
    have hget : bytes.get! i = bytes.data.toList[i] := getElem!_pos bytes.data i hi
    rw [ih, hget, List.drop_eq_getElem_cons hlength, List.reverse_cons, List.append_assoc]
    rfl
  | case2 i front hi =>
    have hlength : bytes.data.toList.length ≤ i := Nat.le_of_not_lt hi
    rw [List.drop_eq_nil_of_le hlength, List.append_nil]

/-- The bytes of an array are those of its data. -/
theorem toList_eq_data (bytes : ByteArray) : bytes.toList = bytes.data.toList := by
  rw [ByteArray.toList, toList_loop, List.reverse_nil, List.nil_append, List.drop_zero]

/-- Arrays of the same bytes are equal. -/
theorem eq_of_toList_eq {bytes bytes' : ByteArray} (h : bytes.toList = bytes'.toList) :
    bytes = bytes' := by
  rw [toList_eq_data, toList_eq_data] at h
  exact ByteArray.ext (Array.toList_inj.mp h)

/-- A text in UTF-8 is written character by character. -/
theorem toList_toUTF8 (t : String) : t.toUTF8.toList = t.toList.flatMap String.utf8EncodeChar := by
  rw [toList_eq_data, String.toUTF8_eq_toByteArray, ← String.utf8Encode_toList, List.utf8Encode,
    List.toList_data_toByteArray]

/-- UTF-8 is what the texts are written in. -/
theorem isUtf8_toList_iff {bytes : ByteArray} :
    IsUtf8 bytes.toList ↔ ∃ t : String, bytes = t.toUTF8 := by
  rw [isUtf8_iff]
  constructor
  · rintro ⟨cs, hcs⟩
    refine ⟨String.ofList cs, eq_of_toList_eq ?_⟩
    rw [hcs, toList_toUTF8, String.toList_ofList]
  · rintro ⟨t, rfl⟩
    exact ⟨t.toList, toList_toUTF8 t⟩

/-- An encoded text is decoded to itself. -/
theorem fromUTF8?_toUTF8 (t : String) : String.fromUTF8? t.toUTF8 = some t := by
  unfold String.fromUTF8?
  rw [String.toUTF8_eq_toByteArray, dif_pos t.isValidUTF8]
  rfl

/-- Bytes that are no UTF-8 are not decoded. -/
theorem fromUTF8?_eq_none {bytes : ByteArray} (h : ¬ IsUtf8 bytes.toList) :
    String.fromUTF8? bytes = none := by
  exact dif_neg fun hvalid => h (isUtf8_toList_iff.mpr ⟨String.fromUTF8 bytes hvalid, rfl⟩)

end StructureGrader.Text
