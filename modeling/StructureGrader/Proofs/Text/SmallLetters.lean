import StructureGrader.Text.Case
import Mathlib.Data.List.Forall2
import Mathlib.Data.List.Infix

/-!
# Small letters

In small letters a text gets no shorter (`length_le_length_lowerFrom`), and it ends in an ASCII word
where it ends in a spelling of the word (`suffix_lower_iff`). A character whose small letter is an ASCII
one is ASCII itself, with one exception (`ascii_of_smallLetters`), so without that letter the spellings
are those in the letters of ASCII (`spells_iff`). The neighbours of a character matter for a letter
beyond ASCII alone: for ASCII words the small letters of a text can be taken character by character
(`lowerFrom_alike`), and for an ASCII text they are such letters (`lowerFrom_of_ascii`).
-/

namespace StructureGrader.Text

/-! ## Small letters of a text -/

/-- The small letters of a character between others, of which those in front are in reverse order.
-/
def smallLettersAt (before : List Char) (c : Char) (after : List Char) : List Char :=
  if c.toNat == 0x3A3 then
    if startsCased before && !startsCased after then [Char.ofNat 0x3C2] else [Char.ofNat 0x3C3]
  else smallLetters c

/-- The small letter of the capital sigma on its own. -/
theorem smallLetters_sigma {c : Char} (h : (c.toNat == 0x3A3) = true) :
    smallLetters c = [Char.ofNat 0x3C3] := by
  rw [← Char.ofNat_toNat c, beq_iff_eq.1 h]
  decide +kernel

/-- The small letters of a text are those of its first character, by what stands before it, and
those of the rest. -/
theorem lowerFrom_cons (before : List Char) (c : Char) (cs : List Char) :
    lowerFrom before (c :: cs) = smallLettersAt before c cs ++ lowerFrom (c :: before) cs :=
  rfl

/-- The small letters of a character are one letter wherever it stands, or they end in a letter that
is not ASCII. -/
theorem smallLettersAt_cases (before : List Char) (c : Char) (after : List Char) :
    (∃ d, smallLetters c = [d] ∧ smallLettersAt before c after = [d]) ∨
      ∃ front d, smallLettersAt before c after = front ++ [d] ∧ 128 ≤ d.toNat := by
  unfold smallLettersAt
  split_ifs with hsigma hfinal
  · exact Or.inr ⟨[], Char.ofNat 0x3C2, rfl, by decide⟩
  · exact Or.inr ⟨[], Char.ofNat 0x3C3, rfl, by decide⟩
  · unfold smallLetters
    split_ifs with hascii hdotted
    · exact Or.inl ⟨_, rfl, rfl⟩
    · exact Or.inr ⟨['i'], Char.ofNat 0x307, rfl, by decide⟩
    · cases smallLetterFar c.toNat with
      | none => exact Or.inl ⟨_, rfl, rfl⟩
      | some n => exact Or.inl ⟨_, rfl, rfl⟩

/-- No text gets shorter in small letters. -/
theorem length_le_length_lowerFrom (before cs : List Char) :
    cs.length ≤ (lowerFrom before cs).length := by
  induction cs generalizing before with
  | nil => exact Nat.zero_le _
  | cons c cs ih =>
    have hrest := ih (c :: before)
    rw [lowerFrom_cons, List.length_append, List.length_cons]
    obtain ⟨d, -, hd⟩ | ⟨front, d, hd, -⟩ := smallLettersAt_cases before c cs <;>
      · rw [hd]
        simp
        omega

/-! ## Spellings of a word -/

/-- A text is a word in some spelling: each letter of the word is the small letter of a character.
-/
def Spells (cs word : List Char) : Prop :=
  List.Forall₂ (fun c d => smallLetters c = [d]) cs word

/-- A text that ends in an ASCII word when it is written in small letters ends in a spelling of it.
-/
theorem exists_of_suffix_lowerFrom {word cs before : List Char} (hword : ∀ d ∈ word, d.toNat < 128)
    (h : word <:+ lowerFrom before cs) : ∃ front tail, cs = front ++ tail ∧ Spells tail word := by
  induction cs generalizing before word with
  | nil =>
    obtain rfl := List.suffix_nil.1 h
    exact ⟨[], [], rfl, .nil⟩
  | cons c cs ih =>
    rw [lowerFrom_cons] at h
    have hrest : lowerFrom (c :: before) cs <:+
        smallLettersAt before c cs ++ lowerFrom (c :: before) cs := List.suffix_append _ _
    obtain hshort | ⟨more, rfl⟩ := List.suffix_or_suffix_of_suffix h hrest
    · obtain ⟨front, tail, rfl, htail⟩ := ih hword hshort
      exact ⟨c :: front, tail, rfl, htail⟩
    · -- The word covers all that follows the character, which therefore spells the rest of it.
      obtain ⟨front, tail, rfl, htail⟩ := ih (fun d hd => hword d (List.mem_append_right _ hd))
        (List.suffix_refl _)
      have hfront : front = [] := by
        have hlength := List.Forall₂.length_eq htail
        have hle := length_le_length_lowerFrom (c :: before) (front ++ tail)
        rw [List.length_append] at hle
        exact List.length_eq_zero_iff.1 (by omega)
      rw [hfront, List.nil_append] at h hword htail ⊢
      obtain ⟨hmore, -⟩ := (List.suffix_append_inj_of_length_eq rfl).1 h
      obtain ⟨d, hc, hat⟩ | ⟨others, d, hat, hd⟩ := smallLettersAt_cases before c tail
      · rw [hat, List.suffix_cons_iff, List.suffix_nil] at hmore
        obtain rfl | rfl := hmore
        · exact ⟨[], c :: tail, rfl, .cons hc htail⟩
        · exact ⟨[c], tail, rfl, htail⟩
      · -- The last letter here is beyond ASCII, and the word has none of these.
        rw [hat, List.suffix_concat_iff] at hmore
        obtain rfl | ⟨t, rfl, -⟩ := hmore
        · exact ⟨[c], tail, rfl, htail⟩
        · have hascii := hword d (by simp)
          omega

/-- A spelling of an ASCII word is that word in small letters. -/
theorem Spells.lowerFrom_eq {cs word : List Char} (h : Spells cs word)
    (hword : ∀ d ∈ word, d.toNat < 128) (before : List Char) : lowerFrom before cs = word := by
  induction h generalizing before with
  | nil => rfl
  | @cons c d cs word hc _ ih =>
    have hd : d.toNat < 128 := hword d List.mem_cons_self
    have hsigma : ¬ (c.toNat == 0x3A3) = true := by
      intro hsigma
      rw [smallLetters_sigma hsigma] at hc
      cases hc
      revert hd
      decide
    rw [lowerFrom_cons, ih (fun e he => hword e (List.mem_cons_of_mem d he)) (c :: before),
      smallLettersAt, if_neg hsigma, hc]
    rfl

/-- The small letters of a text end in those of its end. -/
theorem suffix_lowerFrom_append (before front tail : List Char) :
    ∃ before', lowerFrom before' tail <:+ lowerFrom before (front ++ tail) := by
  induction front generalizing before with
  | nil => exact ⟨before, List.suffix_refl _⟩
  | cons c front ih =>
    obtain ⟨before', h⟩ := ih (c :: before)
    exact ⟨before', h.trans (List.suffix_append _ _)⟩

/-- A text ends in an ASCII word, in small letters, when it ends in a spelling of it. -/
theorem suffix_lower_iff {s : String} {word : List Char} (hword : ∀ d ∈ word, d.toNat < 128) :
    word <:+ (lower s).toList ↔ ∃ front tail, s.toList = front ++ tail ∧ Spells tail word := by
  unfold lower lowerChars
  rw [String.toList_ofList]
  refine ⟨exists_of_suffix_lowerFrom hword, ?_⟩
  rintro ⟨front, tail, hs, htail⟩
  obtain ⟨before', h⟩ := suffix_lowerFrom_append [] front tail
  rwa [htail.lowerFrom_eq hword, ← hs] at h

/-- No spelling of a word has a character that is a small letter of its own and not in the word. -/
theorem Spells.notMem {cs word : List Char} (h : Spells cs word) {c : Char}
    (hc : smallLetters c = [c]) (hword : c ∉ word) : c ∉ cs := by
  induction h with
  | nil => exact List.not_mem_nil
  | @cons c' d cs word hd _ ih =>
    rw [List.mem_cons, not_or] at hword ⊢
    refine ⟨?_, ih hword.2⟩
    rintro rfl
    rw [hc, List.singleton_inj] at hd
    exact hword.1 hd

/-! ## Small letters in ASCII -/

/-- The small letter of a character from U+0080 on is a character, and no ASCII character but `k`.
-/
theorem smallLetterFar_eq_some {n m : Nat} (h : smallLetterFar n = some m) :
    m.isValidChar ∧ (128 ≤ m ∨ m = 'k'.toNat) := by
  have hruns : ∀ run ∈ smallLetterRuns,
      (128 ≤ (run.1 : Int) + run.2.2.2 ∨
        run.1 = run.2.1 ∧ (run.1 : Int) + run.2.2.2 = 'k'.toNat) ∧
      ((run.2.1 : Int) + run.2.2.2 < 0xD800 ∨
        0xDFFF < (run.1 : Int) + run.2.2.2 ∧ (run.2.1 : Int) + run.2.2.2 < 0x110000) := by
    decide +kernel
  unfold smallLetterFar at h
  rw [Option.map_eq_some_iff] at h
  obtain ⟨⟨first, last, step, shift⟩, hfind, hn⟩ := h
  obtain ⟨hascii, hvalid⟩ := hruns _ (List.mem_of_find?_eq_some hfind)
  have htest := List.find?_some hfind
  simp only [Bool.and_eq_true, decide_eq_true_eq] at htest
  dsimp only at hascii hvalid hn
  rw [Int.ofNat_eq_natCast] at hn
  unfold Nat.isValidChar
  omega

/-- A character with an ASCII character for its small letter is one itself, unless that is `k`,
which is the small letter of the Kelvin sign too. -/
theorem ascii_of_smallLetters {c d : Char} (hascii : d.toNat < 128) (hkelvin : d ≠ 'k')
    (h : smallLetters c = [d]) : c.toNat < 128 ∧ c.toLower = d := by
  unfold smallLetters at h
  split at h
  · rename_i hsmall
    exact ⟨hsmall, List.singleton_inj.1 h⟩
  rename_i hlarge
  split at h
  · cases h
  split at h
  · rename_i n hfar
    obtain ⟨hvalid, hn⟩ := smallLetterFar_eq_some hfar
    have hsame : (Char.ofNat n).toNat = n := by rw [Char.ofNat, dif_pos hvalid]; rfl
    rw [List.singleton_inj] at h
    rw [← h, hsame] at hascii
    obtain hfar | rfl := hn
    · omega
    · exact absurd h.symm hkelvin
  · rw [List.singleton_inj.1 h] at hlarge
    exact absurd hascii hlarge

/-- For such a character it is enough to look at the letters of ASCII. -/
theorem smallLetters_eq_singleton_iff {c d : Char} (hascii : d.toNat < 128) (hkelvin : d ≠ 'k') :
    smallLetters c = [d] ↔ c.toLower = d := by
  refine ⟨fun h => (ascii_of_smallLetters hascii hkelvin h).2, fun h => ?_⟩
  have hsmall : c.toNat < 128 := by
    -- A character beyond ASCII is not changed here, so it would be the ASCII character itself.
    by_contra hlarge
    have hsame : c.toLower = c := by
      unfold Char.toLower
      rw [dif_neg]
      intro hcapital
      have hle : c.toNat ≤ 'Z'.toNat := hcapital.2
      exact hlarge (hle.trans_lt (by decide))
    rw [hsame] at h
    exact hlarge (h ▸ hascii)
  rw [smallLetters, if_pos hsmall, h]

/-- The spellings of a word in ASCII without that letter are in its letters, capital or small. -/
theorem spells_iff {cs word : List Char} (hword : ∀ d ∈ word, d.toNat < 128 ∧ d ≠ 'k') :
    Spells cs word ↔ cs.map Char.toLower = word := by
  induction cs generalizing word with
  | nil => cases word <;> simp [Spells]
  | cons c cs ih =>
    cases word with
    | nil => simp [Spells]
    | cons d word =>
      obtain ⟨⟨hascii, hkelvin⟩, hword⟩ := List.forall_mem_cons.1 hword
      have hrest := ih hword
      unfold Spells at hrest ⊢
      rw [List.forall₂_cons, smallLetters_eq_singleton_iff hascii hkelvin, hrest, List.map_cons,
        List.cons.injEq]

/-- The small letters of an ASCII text are those of its characters one by one. -/
theorem lowerFrom_of_ascii {cs : List Char} (h : ∀ c ∈ cs, c.toNat < 128) (before : List Char) :
    lowerFrom before cs = cs.map Char.toLower := by
  have hsmall : ∀ n < 128, (Char.ofNat n).toLower.toNat < 128 := by decide +kernel
  have hspells : Spells cs (cs.map Char.toLower) :=
    List.forall₂_map_right_iff.2 (List.forall₂_same.2 fun c hc => if_pos (h c hc))
  refine hspells.lowerFrom_eq (fun d hd => ?_) before
  obtain ⟨c, hc, rfl⟩ := List.mem_map.1 hd
  rw [← Char.ofNat_toNat c]
  exact hsmall c.toNat (h c hc)

/-- Only the dot has a dot for its small letter. -/
theorem eq_of_smallLetters_dot {c : Char} (h : smallLetters c = ['.']) : c = '.' := by
  have hdot : ∀ n < 128, (Char.ofNat n).toLower = '.' → Char.ofNat n = '.' := by decide +kernel
  obtain ⟨hascii, hlower⟩ := ascii_of_smallLetters (by decide) (by decide) h
  rw [← Char.ofNat_toNat c] at hlower ⊢
  exact hdot c.toNat hascii hlower

/-- Characters that are the same or are both beyond ASCII. -/
def AsciiAlike (a b : Char) : Prop :=
  a = b ∨ 128 ≤ a.toNat ∧ 128 ≤ b.toNat

/-- As far as ASCII characters go, the small letters of a text are those of its characters one by
one: the neighbours of a character only decide between the two small letters of the sigma. -/
theorem lowerFrom_alike (before cs : List Char) :
    List.Forall₂ AsciiAlike (lowerFrom before cs) (cs.flatMap smallLetters) := by
  have hself : ∀ ds : List Char, List.Forall₂ AsciiAlike ds ds := fun ds =>
    List.forall₂_same.2 fun _ _ => .inl rfl
  induction cs generalizing before with
  | nil => exact .nil
  | cons c cs ih =>
    rw [lowerFrom_cons, List.flatMap_cons]
    refine List.rel_append ?_ (ih (c :: before))
    unfold smallLettersAt
    split_ifs with hsigma hfinal
    · rw [smallLetters_sigma hsigma]
      exact .cons (.inr (by decide)) .nil
    · rw [smallLetters_sigma hsigma]
      exact hself _
    · exact hself _

end StructureGrader.Text
