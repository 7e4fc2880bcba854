import StructureGrader.Service.ReportId
import Mathlib.Data.List.Induction

/-!
# Which names of reports are accepted

Reading a name understands many spellings of one number, but a name is accepted only if the number
is written in that way again. So the accepted names are those of thirty-two hexadecimal digits with
small letters, and no other text is one of them (`isIssued_iff`): not one with marks, braces or
hyphens, not one with capital letters, and not one with anything that separates the components of a
path.
-/

namespace StructureGrader.Service.ReportId

/-- The hexadecimal digits with small letters. -/
def digits : List Char :=
  "0123456789abcdef".toList

/-- A name that is made of thirty-two of these digits. -/
def Canonical (name : String) : Prop :=
  name.toList.length = width ∧ ∀ c ∈ name.toList, c ∈ digits

/-! ## Digits and numbers -/

/-- Each digit stands at the place of its value. -/
theorem getD_digits : ∀ c ∈ digits, digits.getD ((Json.hexValue? c).getD 0) '0' = c := by
  decide

/-- A hexadecimal digit has a value below 16. -/
theorem hexValue_lt : ∀ c ∈ digits, (Json.hexValue? c).getD 0 < 16 := by
  decide

/-- A digit looked up by its value is one of the hexadecimal digits. -/
theorem getD_mem_digits (i : Nat) : digits.getD i '0' ∈ digits := by
  rw [List.getD_eq_getElem?_getD]
  cases hget : digits[i]? with
  | none => decide
  | some c => exact List.mem_of_getElem? hget

/-- A number is written as its upper digits and then its last one. -/
theorem hexDigits_succ (places n : Nat) :
    Text.hexDigits (places + 1) n = Text.hexDigits places (n / 16) ++ [digits.getD (n % 16) '0'] :=
  rfl

/-- A number is written in as many digits as were asked for. -/
theorem length_hexDigits (places n : Nat) : (Text.hexDigits places n).length = places := by
  induction places generalizing n with
  | zero => rfl
  | succ places ih => rw [hexDigits_succ, List.length_append, ih, List.length_singleton]

/-- A number is written in hexadecimal digits. -/
theorem mem_hexDigits {places n : Nat} {c : Char} (h : c ∈ Text.hexDigits places n) :
    c ∈ digits := by
  induction places generalizing n with
  | zero => cases h
  | succ places ih =>
    rw [hexDigits_succ, List.mem_append, List.mem_singleton] at h
    obtain h | rfl := h
    · exact ih h
    · exact getD_mem_digits _

/-- A name that is given out is made of digits. -/
theorem canonical_text (n : Nat) : Canonical (text n) := by
  unfold Canonical text
  rw [String.toList_ofList]
  exact ⟨length_hexDigits width n, fun c h => mem_hexDigits h⟩

/-- One more digit makes the value 16 times as large and adds its own. -/
theorem hexDigitsValue_concat (ds : List Char) (c : Char) :
    hexDigitsValue (ds ++ [c]) = 16 * hexDigitsValue ds + (Json.hexValue? c).getD 0 := by
  unfold hexDigitsValue
  rw [List.foldl_append]
  rfl

/-- The number that digits write is below the power of sixteen by their count. -/
theorem hexDigitsValue_lt {ds : List Char} (h : ∀ c ∈ ds, c ∈ digits) :
    hexDigitsValue ds < Nat.pow 16 ds.length := by
  induction ds using List.reverseRecOn with
  | nil => exact Nat.one_pos
  | append_singleton ds c ih =>
    have hless := ih fun x hx => h x (List.mem_append_left _ hx)
    have hdigit := hexValue_lt c (h c (by simp))
    have hpower : Nat.pow 16 (ds.length + 1) = Nat.pow 16 ds.length * 16 := rfl
    rw [hexDigitsValue_concat, List.length_append, List.length_singleton, hpower]
    omega

/-- Digits are written again for the number that they write. -/
theorem hexDigits_hexDigitsValue {ds : List Char} (h : ∀ c ∈ ds, c ∈ digits) :
    Text.hexDigits ds.length (hexDigitsValue ds) = ds := by
  induction ds using List.reverseRecOn with
  | nil => rfl
  | append_singleton ds c ih =>
    have hbefore := ih fun x hx => h x (List.mem_append_left _ hx)
    have hmem : c ∈ digits := h c (by simp)
    have hdigit := hexValue_lt c hmem
    have hdiv : (16 * hexDigitsValue ds + (Json.hexValue? c).getD 0) / 16 = hexDigitsValue ds := by
      omega
    have hmod : (16 * hexDigitsValue ds + (Json.hexValue? c).getD 0) % 16 =
        (Json.hexValue? c).getD 0 := by
      omega
    rw [hexDigitsValue_concat, List.length_append, List.length_singleton, hexDigits_succ, hdiv,
      hmod, hbefore, getD_digits c hmem]

/-! ## Reading digits -/

/-- Where no character passes the test nothing is stripped. -/
theorem stripWhere_of_forall {test : Char → Bool} {cs : List Char}
    (h : ∀ c ∈ cs, test c = false) : Text.stripWhere test cs = cs := by
  have hdrop : ∀ xs : List Char, (∀ c ∈ xs, test c = false) → xs.dropWhile test = xs := by
    intro xs hxs
    cases xs with
    | nil => rfl
    | cons x xs => rw [List.dropWhile_cons, hxs x List.mem_cons_self]; rfl
  unfold Text.stripWhere
  rw [hdrop cs h, hdrop cs.reverse (by simpa using h), List.reverse_reverse]

/-- A pattern is not found where its first character is not. -/
theorem withoutFrom_of_notMem {p : Char} {ps cs : List Char} (h : p ∉ cs) :
    Text.withoutFrom (p :: ps) 0 cs = cs := by
  induction cs with
  | nil => rfl
  | cons c cs ih =>
    have hne : ¬ p = c := fun heq => h (by simp [heq])
    have hnot : (p :: ps).isPrefixOf (c :: cs) = false := by simp [List.isPrefixOf, hne]
    rw [Text.withoutFrom, hnot, if_neg Bool.false_ne_true, ih fun hmem => h (by simp [hmem])]

/-- Characters without an underscore are kept as they are. -/
theorem withoutUnderscores?_of_notMem {isDigit : Char → Bool} {cs : List Char} (h : '_' ∉ cs)
    (before : Char) : Number.withoutUnderscores? isDigit before cs = some cs := by
  induction cs generalizing before with
  | nil => rfl
  | cons c cs ih =>
    have hne : c ≠ '_' := fun heq => h (by simp [heq])
    have hrest := ih (fun hmem => h (by simp [hmem])) c
    -- Only the last case of the definition is left, where the first character is no underscore.
    rw [Number.withoutUnderscores?, hrest, Option.map_some]
    all_goals simp_all

section Digits

variable {cs : List Char}

/-- Hexadecimal digits are no decoration of an id. -/
theorem bareChars_of_digits (h : ∀ c ∈ cs, c ∈ digits) : bareChars (String.ofList cs) = cs := by
  have hplain : ∀ c ∈ digits, isBrace c = false ∧ (c != '-') = true ∧ 'u' ≠ c := by decide
  have hmark : 'u' ∉ cs := fun hmem => (hplain 'u' (h 'u' hmem)).2.2 rfl
  have hurn : Text.without "urn:" cs = cs := withoutFrom_of_notMem hmark
  have huuid : Text.without "uuid:" cs = cs := withoutFrom_of_notMem hmark
  unfold bareChars
  dsimp only
  rw [String.toList_ofList, hurn, huuid,
    stripWhere_of_forall fun c hc => (hplain c (h c hc)).1,
    List.filter_eq_self.2 fun c hc => (hplain c (h c hc)).2.1]

/-- Hexadecimal digits are plain characters of a number. -/
theorem plainChars_of_digits (h : ∀ c ∈ cs, c ∈ digits) :
    Number.plainChars (String.ofList cs) = cs := by
  have hplain : ∀ c ∈ digits, Number.isPadding c = false ∧
      ((Text.digitValue? c).map fun d => Char.ofNat (48 + d)).getD c = c := by decide
  unfold Number.plainChars
  rw [String.toList_ofList, stripWhere_of_forall fun c hc => (hplain c (h c hc)).1]
  refine (List.map_congr_left fun c hc => ?_).trans (List.map_id' cs)
  have hsame := (hplain c (h c hc)).2
  cases hvalue : Text.digitValue? c with
  | none => rfl
  | some d =>
    rw [hvalue] at hsame
    exact hsame

/-- Digits are read as the number that they write. -/
theorem hexNumber?_of_digits (hne : cs ≠ []) (h : ∀ c ∈ cs, c ∈ digits) :
    hexNumber? (String.ofList cs) = some (Int.ofNat (hexDigitsValue cs)) := by
  have hplain : ∀ c ∈ digits, '-' ≠ c ∧ '+' ≠ c ∧ '_' ≠ c ∧ 'x' ≠ c ∧ 'X' ≠ c ∧
      isHexDigit c = true := by decide
  have hsigned : Number.signed cs = (false, cs) := by
    unfold Number.signed
    split
    · exact absurd rfl (hplain '-' (h '-' List.mem_cons_self)).1
    · exact absurd rfl (hplain '+' (h '+' List.mem_cons_self)).2.1
    · rfl
  have hbase : behindBaseMark cs = cs := by
    unfold behindBaseMark
    split
    · rename_i x rest
      have hx := hplain x (h x (by simp))
      have hmark : (x == 'x' || x == 'X') = false := by
        simp [Ne.symm hx.2.2.2.1, Ne.symm hx.2.2.2.2.1]
      rw [hmark, if_neg Bool.false_ne_true]
    · rfl
  have hunderscore : '_' ∉ cs := fun hmem => (hplain '_' (h '_' hmem)).2.2.1 rfl
  have hall : cs.any (!isHexDigit ·) = false := by
    rw [List.any_eq_false]
    intro c hc
    simp [(hplain c (h c hc)).2.2.2.2.2]
  unfold hexNumber?
  rw [plainChars_of_digits h, hsigned]
  dsimp only
  rw [hbase, withoutUnderscores?_of_notMem hunderscore]
  dsimp only
  rw [hall, List.isEmpty_eq_false_iff.2 hne]
  rfl

end Digits

/-! ## Accepted names -/

/-- A name of thirty-two digits is read as the number that they write. -/
theorem read?_of_canonical {name : String} (h : Canonical name) :
    read? name = some (hexDigitsValue name.toList) := by
  obtain ⟨hlength, hdigits⟩ := h
  have hne : name.toList ≠ [] := by
    intro hnil
    rw [hnil] at hlength
    cases hlength
  have hless : (hexDigitsValue name.toList : Int) < Int.ofNat bound := by
    have h32 := hexDigitsValue_lt hdigits
    have hbound : Nat.pow 16 width = bound := by decide
    rw [hlength, hbound] at h32
    exact Int.ofNat_lt.2 h32
  have hbare : bareChars name = name.toList := by
    have hchars := bareChars_of_digits hdigits
    rwa [String.ofList_toList] at hchars
  unfold read?
  rw [hbare]
  dsimp only
  rw [hlength, hexNumber?_of_digits hne hdigits]
  have hrange : (0 ≤ Int.ofNat (hexDigitsValue name.toList) &&
      decide (Int.ofNat (hexDigitsValue name.toList) < Int.ofNat bound)) = true := by
    rw [Bool.and_eq_true, decide_eq_true_iff, decide_eq_true_iff]
    exact ⟨Int.natCast_nonneg _, hless⟩
  rw [bne_self_eq_false, if_neg Bool.false_ne_true]
  dsimp only
  rw [if_pos hrange]
  rfl

/-- The names that are accepted are those of thirty-two hexadecimal digits with small letters. -/
theorem isIssued_iff (name : String) : isIssued name = true ↔ Canonical name := by
  unfold isIssued
  constructor
  · intro h
    cases hread : read? name with
    | none => simp [hread] at h
    | some n =>
      rw [hread] at h
      obtain rfl : text n = name := eq_of_beq h
      exact canonical_text n
  · intro h
    have htext : text (hexDigitsValue name.toList) = name := by
      unfold text
      rw [← h.1, hexDigits_hexDigitsValue h.2, String.ofList_toList]
    rw [read?_of_canonical h]
    dsimp only
    rw [htext, beq_self_eq_true]

end StructureGrader.Service.ReportId
