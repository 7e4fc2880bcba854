import StructureGrader.Proofs.Text.Utf8
import StructureGrader.Submission

/-!
# What is read from a file

A text is written to a file in UTF-8 or with one byte for each character, and whatever bytes a file
holds, there is one text that they are written for (`writtenAs_iff`). With one byte for each
character, a text is lost where the bytes happen to be UTF-8, as they are then those of another
text.

The line ends of this text may be of three kinds (`Lines`). What is read has the same lines with line
feeds between them (`Lines.unifyLineEnds_eq`), and is the text that was written where that has no
carriage returns (`textOfFileAt_written`).
-/

namespace StructureGrader

namespace Text

variable {t : String} {bytes : ByteArray} {cs : List Char} {lines : List (List Char)}

/-! ## One byte for each character -/

/-- The numbers of the characters of a text as bytes. -/
def oneByteChars (t : String) : List UInt8 :=
  t.toList.map fun c => UInt8.ofNat c.toNat

/-- The bytes of a file that a text is read from: the text in UTF-8, or else with one byte for each
character, for which the bytes must not be UTF-8. -/
inductive WrittenAs (t : String) (bytes : ByteArray) : Prop
  | utf8 (same : bytes = t.toUTF8)
  | oneByte (small : ∀ c ∈ t.toList, c.toNat ≤ 255) (same : bytes.toList = oneByteChars t)
      (other : ¬ IsUtf8 bytes.toList)

/-- The character of a byte has the byte as its number. -/
theorem toNat_ofNat_byte (b : UInt8) : (Char.ofNat b.toNat).toNat = b.toNat := by
  have hb := b.toNat_lt
  rw [Char.ofNat, dif_pos (Or.inl (by omega))]
  rfl

/-- A text of one byte a character has the characters of its bytes. -/
theorem toList_ofOneByteChars (bytes : ByteArray) :
    (ofOneByteChars bytes).toList = bytes.toList.map fun b => Char.ofNat b.toNat := by
  unfold ofOneByteChars
  rw [String.toList_ofList]

/-- All bytes stand for a text with one byte for each character. -/
theorem oneByteChars_ofOneByteChars (bytes : ByteArray) :
    oneByteChars (ofOneByteChars bytes) = bytes.toList := by
  unfold oneByteChars
  rw [toList_ofOneByteChars, List.map_map]
  refine (List.map_congr_left fun b _ => ?_).trans (List.map_id _)
  show UInt8.ofNat (Char.ofNat b.toNat).toNat = b
  rw [toNat_ofNat_byte, UInt8.ofNat_toNat]

/-- Every character of a text of one byte a character is below 256. -/
theorem small_of_mem_ofOneByteChars {c : Char} (h : c ∈ (ofOneByteChars bytes).toList) :
    c.toNat ≤ 255 := by
  rw [toList_ofOneByteChars] at h
  obtain ⟨b, _, rfl⟩ := List.mem_map.mp h
  rw [toNat_ofNat_byte]
  exact Nat.le_of_lt_succ b.toNat_lt

/-- A text of small characters is known by its bytes. -/
theorem ofOneByteChars_eq (hsmall : ∀ c ∈ t.toList, c.toNat ≤ 255)
    (h : bytes.toList = oneByteChars t) : ofOneByteChars bytes = t := by
  refine String.toList_inj.mp ?_
  rw [toList_ofOneByteChars, h, oneByteChars, List.map_map]
  refine (List.map_congr_left fun c hc => ?_).trans (List.map_id _)
  show Char.ofNat (UInt8.ofNat c.toNat).toNat = c
  rw [UInt8.toNat_ofNat', Nat.mod_eq_of_lt (Nat.lt_succ_of_le (hsmall c hc)), Char.ofNat_toNat]

/-- Exactly one text is written in given bytes. -/
theorem writtenAs_iff : WrittenAs t bytes ↔ ofBytes bytes = t := by
  unfold ofBytes
  constructor
  · rintro (rfl | ⟨hsmall, hsame, hother⟩)
    · rw [fromUTF8?_toUTF8, Option.getD_some]
    · rw [fromUTF8?_eq_none hother, Option.getD_none, ofOneByteChars_eq hsmall hsame]
  · rintro rfl
    by_cases h : IsUtf8 bytes.toList
    · obtain ⟨t, rfl⟩ := isUtf8_toList_iff.mp h
      rw [fromUTF8?_toUTF8, Option.getD_some]
      exact .utf8 rfl
    · rw [fromUTF8?_eq_none h, Option.getD_none]
      exact .oneByte (fun _ => small_of_mem_ofOneByteChars) (oneByteChars_ofOneByteChars bytes).symm h

/-! ## Line ends -/

/-- Characters that end no line. -/
def OneLine (line : List Char) : Prop :=
  '\r' ∉ line ∧ '\n' ∉ line

/-- The lines of a text, where a line feed ends a line, and a carriage return with the line feed
behind it, if there is one. -/
inductive Lines : List (List Char) → List Char → Prop
  | last {line : List Char} (plain : OneLine line) : Lines [line] line
  | feed {line rest : List Char} {lines : List (List Char)} (plain : OneLine line)
      (more : Lines lines rest) : Lines (line :: lines) (line ++ '\n' :: rest)
  | both {line rest : List Char} {lines : List (List Char)} (plain : OneLine line)
      (more : Lines lines rest) : Lines (line :: lines) (line ++ '\r' :: '\n' :: rest)
  | alone {line rest : List Char} {lines : List (List Char)} (plain : OneLine line)
      (behind : rest.head? ≠ some '\n') (more : Lines lines rest) :
      Lines (line :: lines) (line ++ '\r' :: rest)

/-- The empty line is one line. -/
theorem oneLine_nil : OneLine [] :=
  ⟨List.not_mem_nil, List.not_mem_nil⟩

/-- A line stays one with a character in front of it that ends no line. -/
theorem OneLine.cons {c : Char} {line : List Char} (hreturn : c ≠ '\r') (hfeed : c ≠ '\n')
    (h : OneLine line) : OneLine (c :: line) :=
  ⟨List.not_mem_cons_of_ne_of_not_mem hreturn.symm h.1,
    List.not_mem_cons_of_ne_of_not_mem hfeed.symm h.2⟩

/-- Text that is cut into lines is so with a character in front of it that ends no line. -/
theorem Lines.cons {c : Char} (hreturn : c ≠ '\r') (hfeed : c ≠ '\n') (h : Lines lines cs) :
    ∃ longer, Lines longer (c :: cs) := by
  cases h with
  | last hplain => exact ⟨_, .last (hplain.cons hreturn hfeed)⟩
  | feed hplain hmore => exact ⟨_, .feed (hplain.cons hreturn hfeed) hmore⟩
  | both hplain hmore => exact ⟨_, .both (hplain.cons hreturn hfeed) hmore⟩
  | alone hplain hbehind hmore => exact ⟨_, .alone (hplain.cons hreturn hfeed) hbehind hmore⟩

/-- Every text is cut into lines in some way. -/
theorem exists_lines (cs : List Char) : ∃ lines, Lines lines cs := by
  fun_induction unifyLineEnds cs with
  | case1 => exact ⟨_, .last oneLine_nil⟩
  | case2 cs ih =>
    obtain ⟨lines, hlines⟩ := ih
    exact ⟨_, .both oneLine_nil hlines⟩
  | case3 c cs hnotBoth ih =>
    obtain ⟨lines, hlines⟩ := ih
    by_cases hreturn : c = '\r'
    · subst hreturn
      refine ⟨_, .alone oneLine_nil (fun hhead => ?_) hlines⟩
      obtain ⟨rest, rfl⟩ := List.head?_eq_some_iff.mp hhead
      exact hnotBoth rest rfl rfl
    · by_cases hfeed : c = '\n'
      · subst hfeed
        exact ⟨_, .feed oneLine_nil hlines⟩
      · exact hlines.cons hreturn hfeed

/-- Characters that are no carriage returns are left as they are by the unification of line ends. -/
theorem unifyLineEnds_append {line : List Char} (h : '\r' ∉ line) (rest : List Char) :
    unifyLineEnds (line ++ rest) = line ++ unifyLineEnds rest := by
  induction line with
  | nil => rfl
  | cons c line ih =>
    obtain ⟨hc, hline⟩ := List.ne_and_not_mem_of_not_mem_cons h
    rw [List.cons_append, unifyLineEnds.eq_3 _ _ fun _ hreturn => absurd hreturn.symm hc, ih hline]
    rw [if_neg (by simpa using Ne.symm hc), List.cons_append]

/-- Text without a carriage return is left as it is. -/
theorem unifyLineEnds_of_notMem (h : '\r' ∉ cs) : unifyLineEnds cs = cs := by
  have hall := unifyLineEnds_append h []
  rwa [List.append_nil, unifyLineEnds, List.append_nil] at hall

/-- There is at least one line. -/
theorem Lines.ne_nil (h : Lines lines cs) : lines ≠ [] := by
  cases h <;> exact List.cons_ne_nil _ _

/-- No line has a line end in it. -/
theorem Lines.oneLine (h : Lines lines cs) : ∀ line ∈ lines, OneLine line := by
  induction h with
  | last hplain => exact List.forall_mem_singleton.mpr hplain
  | feed hplain _ ih => exact List.forall_mem_cons.mpr ⟨hplain, ih⟩
  | both hplain _ ih => exact List.forall_mem_cons.mpr ⟨hplain, ih⟩
  | alone hplain _ _ ih => exact List.forall_mem_cons.mpr ⟨hplain, ih⟩

/-- The lines stay as they are, and a line feed is put between each two. -/
theorem Lines.unifyLineEnds_eq (h : Lines lines cs) :
    unifyLineEnds cs = ['\n'].intercalate lines := by
  induction h with
  | last hplain =>
    rw [unifyLineEnds_of_notMem hplain.1, List.intercalate_singleton]
  | feed hplain hmore ih =>
    rw [unifyLineEnds_append hplain.1, List.intercalate_cons_of_ne_nil hmore.ne_nil, ← ih,
      unifyLineEnds.eq_3 _ _ fun _ hfeed => by cases hfeed]
    simp
  | both hplain hmore ih =>
    rw [unifyLineEnds_append hplain.1, List.intercalate_cons_of_ne_nil hmore.ne_nil, ← ih,
      unifyLineEnds]
    simp
  | alone hplain hbehind hmore ih =>
    rw [unifyLineEnds_append hplain.1, List.intercalate_cons_of_ne_nil hmore.ne_nil, ← ih,
      unifyLineEnds.eq_3 _ _ fun _ _ hrest => hbehind (by rw [hrest]; rfl)]
    simp

/-- Every text has its lines, and no others. -/
theorem lines_iff : Lines lines cs ↔ (unifyLineEnds cs).splitOn '\n' = lines := by
  have hsplit {lines : List (List Char)} (h : Lines lines cs) :
      (unifyLineEnds cs).splitOn '\n' = lines := by
    rw [h.unifyLineEnds_eq]
    exact List.splitOn_intercalate '\n' (fun line hline => (h.oneLine line hline).2) h.ne_nil
  refine ⟨hsplit, ?_⟩
  rintro rfl
  obtain ⟨lines, hlines⟩ := exists_lines cs
  rwa [hsplit hlines]

/-- Behind the unification of line ends there is no carriage return. -/
theorem notMem_unifyLineEnds (cs : List Char) : '\r' ∉ unifyLineEnds cs := by
  fun_induction unifyLineEnds cs with
  | case1 => exact List.not_mem_nil
  | case2 cs ih => exact List.not_mem_cons_of_ne_of_not_mem (by decide) ih
  | case3 c cs hnotBoth ih =>
    refine List.not_mem_cons_of_ne_of_not_mem ?_ ih
    split
    · decide
    · exact fun h => absurd (beq_iff_eq.mpr h.symm) ‹_›

end Text

/-! ## The text of a file -/

open Text

section File

variable {d : Disk} {p : Path} {bytes : ByteArray}

/-- The text of a file is that of its bytes. -/
theorem textOfFileAt_eq (h : d.bytesAt p = .ok bytes) : textOfFileAt d p = .ok (ofFile bytes) := by
  unfold textOfFileAt
  rw [h]
  rfl

/-- The elements of a file are those of its text, under the name of the file where no other is
given. -/
theorem elementsOfFileAt_eq (h : d.bytesAt p = .ok bytes) (file : String) :
    elementsOfFileAt d p file =
      .ok (elementsOf (ofFile bytes) (if file == "" then p.name else file)) := by
  unfold elementsOfFileAt
  rw [h]
  rfl

end File

/-- Reading undoes writing. The text of a file is the one text that its bytes are written for, with
its lines put together by line feeds, and the elements of the file are those of this text. It is the
text itself, if that has no carriage returns. -/
theorem textOfFileAt_written (d : Disk) (p : Path) (bytes : ByteArray) (h : d.bytesAt p = .ok bytes) :
    (IsUtf8 bytes.toList ↔ ∃ t : String, bytes = t.toUTF8) ∧ (∃! t, WrittenAs t bytes) ∧
    ∀ t, WrittenAs t bytes → ∃ read lines,
      (∀ lines', Lines lines' t.toList ↔ lines' = lines) ∧
      read.toList = ['\n'].intercalate lines ∧ '\r' ∉ read.toList ∧
      ('\r' ∉ t.toList → read = t) ∧ textOfFileAt d p = .ok read ∧
      ∀ file, elementsOfFileAt d p file =
        .ok (elementsOf read (if file == "" then p.name else file)) := by
  refine ⟨isUtf8_toList_iff, ?_, ?_⟩
  · simp only [writtenAs_iff]
    exact existsUnique_eq'
  · intro t ht
    obtain rfl := writtenAs_iff.mp ht
    obtain ⟨lines, hlines⟩ := exists_lines (ofBytes bytes).toList
    have hread : (ofFile bytes).toList = unifyLineEnds (ofBytes bytes).toList :=
      String.toList_ofList
    refine ⟨ofFile bytes, lines, fun lines' => ?_, ?_, ?_, fun hplain => ?_, textOfFileAt_eq h,
      elementsOfFileAt_eq h⟩
    · rw [lines_iff, lines_iff.mp hlines]
      exact eq_comm
    · rw [hread, hlines.unifyLineEnds_eq]
    · rw [hread]
      exact notMem_unifyLineEnds _
    · rw [ofFile, unifyLineEnds_of_notMem hplain, String.ofList_toList]

/-- Two files of which the first is in UTF-8, and the second has one byte for each character. -/
def filesInBothWays : Disk :=
  ⟨.folder [("A.java", .file "é\r\nà\rc".toUTF8), ("B.java", .file ⟨#[0xE9, 0x63]⟩)], []⟩

/-- A file in UTF-8 and one in Latin-1 are both read as the text that was written. -/
theorem textOfFileAt_written_inBothWays :
    textOfFileAt filesInBothWays ⟨"", ["A.java"]⟩ = .ok "é\nà\nc" ∧
      textOfFileAt filesInBothWays ⟨"", ["B.java"]⟩ = .ok "éc" := by
  constructor
  · obtain ⟨-, -, hwritten⟩ := textOfFileAt_written filesInBothWays ⟨"", ["A.java"]⟩ _ rfl
    obtain ⟨read, lines, hlines, hread, -, -, htext, -⟩ := hwritten _ (.utf8 rfl)
    have hthree : Lines [['é'], ['à'], ['c']] "é\r\nà\rc".toList := lines_iff.mpr (by decide)
    rw [← (hlines _).mp hthree] at hread
    rw [htext, String.toList_inj.mp (hread.trans (by rfl : _ = "é\nà\nc".toList))]
  · obtain ⟨-, -, hwritten⟩ := textOfFileAt_written filesInBothWays ⟨"", ["B.java"]⟩ _ rfl
    have hbytes : ByteArray.toList ⟨#[0xE9, 0x63]⟩ = [0xE9, 0x63] := toList_eq_data _
    have hother : ¬ IsUtf8 [0xE9, 0x63] := (utf8FaultFrom_eq_none_iff 0 0 _).not.mp (by decide)
    have hsmall : ∀ c ∈ "éc".toList, c.toNat ≤ 255 :=
      List.forall_mem_cons.2 ⟨by decide, List.forall_mem_singleton.2 (by decide)⟩
    obtain ⟨read, _, -, -, -, hsame, htext, -⟩ :=
      hwritten "éc" (.oneByte hsmall (hbytes.trans (by decide)) (by rwa [hbytes]))
    rw [htext, hsame (by decide)]

end StructureGrader
