import StructureGrader.Proofs.Similarity.Features
import StructureGrader.Proofs.Text.Counting
import StructureGrader.Proofs.Text.Runs
import Mathlib.Logic.Relation

/-!
# Features and layout

The features of a text say nothing about its layout. Where a text can be laid out anew (`Seam`), next to
white space and punctuation and at its ends, no occurrence of a keyword is broken up by white space, and
none comes about without it: next to white space more of it is levelled out, and next to punctuation, as
around the space that is added, the occurrences on both sides add up (`patternCount_insert`). Any number
of such changes leaves all features as they are (`Reformatted.codeFeatures_eq`), and white space may be
exchanged for other white space anywhere (`reformatted_exchange`).
-/

namespace StructureGrader

open Text

variable {x w w' y c d pattern : String}

/-! ## Where a text can be laid out anew -/

/-- The characters of the punctuation that is counted. -/
def punctuationMarks : List Char :=
  featurePunctuation.flatMap fun p => p.2.toList

example : punctuationMarks = ['\x7b', '\x7d', '(', ')', ';'] := by decide

/-- Next to this character a text can be laid out anew. -/
def isEdge (c : Char) : Bool :=
  isBlank c || punctuationMarks.contains c

/-- Where two texts meet the whole can be laid out anew: at its ends, and next to punctuation and
white space. -/
def Seam (x y : String) : Prop :=
  x = "" ∨ y = "" ∨ x.toList.getLast?.any isEdge = true ∨ y.toList.head?.any isEdge = true

instance (x y : String) : Decidable (Seam x y) :=
  inferInstanceAs (Decidable (_ ∨ _ ∨ _ ∨ _))

/-- A text of white space alone. -/
def IsBlankText (w : String) : Prop :=
  ∀ c ∈ w.toList, isBlank c = true

instance (w : String) : Decidable (IsBlankText w) :=
  List.decidableBAll _ _

/-- A text with white space at a seam, and the same text without it. -/
inductive Spaced : String → String → Prop
  | insert {x w y : String} (blank : IsBlankText w) (seam : Seam x y) : Spaced (x ++ w ++ y) (x ++ y)

/-- One text comes from the other by putting white space in at seams and taking it out, any number
of times. -/
def Reformatted : String → String → Prop :=
  Relation.EqvGen Spaced

/-! ## Counts at a seam -/

/-- Patterns are ASCII texts without spaces, and each punctuation mark bounds all of them. -/
theorem bounds_of_pattern : ∀ pattern ∈ featureKeywords ++ featurePunctuation.map Prod.snd,
    (∀ d ∈ pattern.toList, d.toNat < 128) ∧ ' ' ∉ pattern.toList ∧
      ∀ c ∈ punctuationMarks, Bounds c pattern.toList := by
  decide +kernel

/-- A punctuation mark has no other small letter. -/
theorem smallLetters_mark : ∀ c ∈ punctuationMarks, smallLetters c = [c] := by
  decide +kernel

/-- The characters in which occurrences are counted. -/
def levelled (cs : List Char) : List Char :=
  (collapseChars cs).flatMap smallLetters

/-- A pattern in ASCII is counted in the characters with their runs of blanks collapsed and in small
letters. -/
theorem patternCount_eq (hascii : ∀ d ∈ pattern.toList, d.toNat < 128) (code : String) :
    patternCount code pattern = countChars (levelled code.toList) pattern.toList := by
  rw [patternCount, normalizeCode, countOccurrences_lower hascii, collapse, String.toList_ofList,
    levelled]

/-- An edge that is no white space is a mark, and stays as it is. -/
theorem mark_of_edge {c : Char} (hedge : isEdge c = true) (hblank : isBlank c = false) :
    c ∈ punctuationMarks ∧ smallLetters c = [c] := by
  rw [isEdge, hblank, Bool.false_or, List.contains_iff_mem] at hedge
  exact ⟨hedge, smallLetters_mark c hedge⟩

/-- Where no white space stands at a seam, no occurrence of a pattern reaches across it. -/
theorem meets_levelled (hbounds : ∀ c ∈ punctuationMarks, Bounds c pattern.toList)
    (hx : endsBlank false x.toList = false) (hy : y.toList.head?.any isBlank = false)
    (hseam : Seam x y) : Meets pattern.toList (levelled x.toList) (levelled y.toList) := by
  obtain rfl | rfl | hlast | hfirst := hseam
  · exact .inl rfl
  · exact .inr (.inl rfl)
  · obtain hnil | ⟨front, c, hlist⟩ := List.eq_nil_or_concat x.toList
    · rw [hnil] at hlast
      cases hlast
    rw [List.concat_eq_append] at hlist
    rw [hlist, endsBlank_concat] at hx
    rw [hlist, List.getLast?_concat] at hlast
    obtain ⟨hmark, hsmall⟩ := mark_of_edge hlast hx
    -- Levelling keeps the mark, so the text in front still ends in it.
    refine .inr (.inr (.inl ⟨levelled front, c, ?_, hbounds c hmark⟩))
    rw [hlist, levelled, collapseChars, collapseFrom_append_cons hx, List.flatMap_append,
      List.flatMap_cons, hsmall]
    rfl
  · cases hlist : y.toList with
    | nil =>
      rw [hlist] at hfirst
      cases hfirst
    | cons c rest =>
      rw [hlist] at hy hfirst
      obtain ⟨hmark, hsmall⟩ := mark_of_edge hfirst hy
      refine .inr (.inr (.inr ⟨c, levelled rest, ?_, hbounds c hmark⟩))
      have hfront := collapseFrom_append_cons hy [] rest false
      rw [List.nil_append] at hfront
      rw [levelled, collapseChars, hfront, List.flatMap_append, List.flatMap_cons, hsmall]
      rfl

/-- White space at a seam changes no count. -/
theorem patternCount_insert (hpattern : pattern ∈ featureKeywords ++ featurePunctuation.map Prod.snd)
    (hblank : IsBlankText w) (hseam : Seam x y) :
    patternCount (x ++ w ++ y) pattern = patternCount (x ++ y) pattern := by
  obtain ⟨hascii, hspace, hbounds⟩ := bounds_of_pattern pattern hpattern
  rw [patternCount_eq hascii, patternCount_eq hascii, String.toList_append, String.toList_append,
    String.toList_append, List.append_assoc, levelled, levelled]
  by_cases hnext : endsBlank false x.toList = true ∨ y.toList.head?.any isBlank = true
  · rw [collapseChars_insert_of_blank hblank hnext]
  by_cases hne : w.toList = []
  · rw [hne, List.nil_append]
  -- The new white space is one space between the two texts, and no pattern has a space.
  rw [not_or, Bool.not_eq_true, Bool.not_eq_true] at hnext
  obtain ⟨hwith, hwithout⟩ := collapseChars_insert hne hblank hnext.1 hnext.2
  have hmeets := meets_levelled hbounds hnext.1 hnext.2 hseam
  rw [hwith, hwithout, List.flatMap_append, List.flatMap_append]
  exact (countChars_append_cons hspace _ _).trans hmeets.countChars_append.symm

/-! ## Features of a text that is laid out anew -/

/-- White space at a seam does not change the features of a text. -/
theorem Spaced.codeFeatures_eq (h : Spaced c d) : codeFeatures c = codeFeatures d := by
  cases h with
  | insert hblank hseam =>
    exact SameCounts.codeFeatures_eq fun pattern hpattern =>
      patternCount_insert hpattern hblank hseam

/-- Reformatting does not change the features of a text. -/
theorem Reformatted.codeFeatures_eq (h : Reformatted c d) : codeFeatures c = codeFeatures d := by
  induction h with
  | rel c d h => exact h.codeFeatures_eq
  | refl c => rfl
  | symm c d _ ih => exact ih.symm
  | trans c d e _ _ ih ih' => exact ih.trans ih'

/-- Behind white space there is a seam. -/
theorem seam_append_left (hblank : IsBlankText w) (hne : w ≠ "") : Seam (x ++ w) y := by
  obtain hnil | ⟨front, c, hlist⟩ := List.eq_nil_or_concat w.toList
  · exact absurd (String.toList_eq_nil_iff.1 hnil) hne
  rw [List.concat_eq_append] at hlist
  have hc : isBlank c = true := hblank c (by simp [hlist])
  refine .inr (.inr (.inl ?_))
  rw [String.toList_append, hlist, ← List.append_assoc, List.getLast?_concat, Option.any_some,
    isEdge, hc, Bool.true_or]

/-- In front of white space there is a seam. -/
theorem seam_append_right (hblank : IsBlankText w) (hne : w ≠ "") : Seam x (w ++ y) := by
  cases hlist : w.toList with
  | nil => exact absurd (String.toList_eq_nil_iff.1 hlist) hne
  | cons c rest =>
    have hc : isBlank c = true := hblank c (by simp [hlist])
    refine .inr (.inr (.inr ?_))
    rw [String.toList_append, hlist, List.cons_append, List.head?_cons, Option.any_some, isEdge, hc,
      Bool.true_or]

/-- White space can be exchanged for other white space. -/
theorem reformatted_exchange (hblank : IsBlankText w) (hblank' : IsBlankText w') (hne : w ≠ "")
    (hne' : w' ≠ "") : Reformatted (x ++ w ++ y) (x ++ w' ++ y) := by
  -- Both come from the text that has the old white space and the new one behind it.
  have hnew : Spaced (x ++ w ++ w' ++ y) (x ++ w ++ y) := .insert hblank' (seam_append_left hblank hne)
  have hold : Spaced (x ++ w ++ (w' ++ y)) (x ++ (w' ++ y)) :=
    .insert hblank (seam_append_right hblank' hne')
  rw [← String.append_assoc, ← String.append_assoc] at hold
  exact (Relation.EqvGen.rel _ _ hnew).symm.trans _ _ _ (.rel _ _ hold)

variable {α : Type} [ScoreNumber α]

/-- White space at a seam does not show in the features of a text. Neither does the exchange of
white space for other white space, nor any number of such changes, which therefore leave the
similarity to any other text as it is. -/
theorem structure_reformatted :
    (∀ x w y : String, IsBlankText w → Seam x y →
      codeFeatures (x ++ w ++ y) = codeFeatures (x ++ y)) ∧
    (∀ x w w' y : String, IsBlankText w → IsBlankText w' → w ≠ "" → w' ≠ "" →
      Reformatted (x ++ w ++ y) (x ++ w' ++ y)) ∧
    ∀ c d : String, Reformatted c d → codeFeatures c = codeFeatures d ∧
      ∀ other : Option String,
        (structuralSimilarity (some c) other : α) = structuralSimilarity (some d) other ∧
        (structuralSimilarity other (some c) : α) = structuralSimilarity other (some d) := by
  refine ⟨fun x w y hblank hseam => (Spaced.insert hblank hseam).codeFeatures_eq,
    fun x w w' y hblank hblank' hne hne' => reformatted_exchange hblank hblank' hne hne',
    fun c d h => ⟨h.codeFeatures_eq, fun other => ?_⟩⟩
  have hfeatures := h.codeFeatures_eq
  cases other with
  | none => exact ⟨rfl, rfl⟩
  | some other =>
    have hvalue : ∀ a b : String, (structuralSimilarity (some a) (some b) : α) =
        featureSimilarity (codeFeatures a) (codeFeatures b) := fun _ _ => rfl
    rw [hvalue, hvalue, hvalue, hvalue, hfeatures]
    exact ⟨rfl, rfl⟩

/-- A brace may be moved to a line of its own and a space may become a tab and a new line, while a
space within a keyword breaks it. -/
theorem structure_reformatted_braces :
    (IsBlankText "\n" ∧ Seam "if (a)" "\x7b\x7d" ∧
      codeFeatures ("if (a)" ++ "\n" ++ "\x7b\x7d") = codeFeatures ("if (a)" ++ "\x7b\x7d")) ∧
    (Reformatted ("new" ++ " " ++ "A") ("new" ++ "\t\n" ++ "A") ∧
      (structuralSimilarity (some ("new" ++ " " ++ "A")) (some "this") : Rat) =
        structuralSimilarity (some ("new" ++ "\t\n" ++ "A")) (some "this")) ∧
    ¬ Seam "pub" "lic" ∧ codeFeatures ("pub" ++ " " ++ "lic") ≠ codeFeatures ("pub" ++ "lic") := by
  obtain ⟨hinsert, hexchange, hfeatures⟩ := structure_reformatted (α := Rat)
  have hblank : IsBlankText "\n" := by decide
  have hseam : Seam "if (a)" "\x7b\x7d" := by decide
  have hnew := hexchange "new" " " "\t\n" "A" (by decide) (by decide) (by decide) (by decide)
  exact ⟨⟨hblank, hseam, hinsert _ _ _ hblank hseam⟩, ⟨hnew, ((hfeatures _ _ hnew).2 _).1⟩,
    by decide, by decide +kernel⟩

end StructureGrader
