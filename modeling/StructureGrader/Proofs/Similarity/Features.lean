import StructureGrader.Proofs.Number.Order
import StructureGrader.Similarity.Features
import Mathlib.Algebra.Field.Rat
import Mathlib.Algebra.Order.Field.Basic
import Mathlib.Algebra.Order.Ring.Rat
import Mathlib.Data.List.Nodup
import Mathlib.Data.Option.Basic

/-!
# Features and counts

The features of a text say how often each keyword and each punctuation symbol occurs in it, and say
it without loss. A feature is told by its label and its count (`featureText_inj`), no two patterns
have the same label, and a keyword without a feature does not occur
(`featureText_mem_codeFeatures`). So no feature is listed twice (`codeFeatures_nodup`), and texts
have the same features where they have the same counts (`SameCounts.of_mem_iff`,
`SameCounts.codeFeatures_eq`).

The share of common features is counted on one of the two lists. For lists without repetitions the other
one has as many (`length_shared_comm`), and the share is full where both hold the same
(`length_shared_eq_max`). `structuralSimilarity_scaled` puts this together for all numbers on which
shares of so few things behave (`ScoreShares`), doubles among them.
-/

namespace StructureGrader

open ScoreNumber

variable {α : Type} [ScoreNumber α]

/-! ## Patterns -/

/-- What is counted, each with its label; a keyword is its own label. -/
def labelledPatterns : List (String × String) :=
  featureKeywords.map (fun k => (k, k)) ++ featurePunctuation

/-- How often a pattern occurs in a text when white space and case are levelled out. -/
def patternCount (code pattern : String) : Nat :=
  Text.countOccurrences (normalizeCode code) pattern

/-- Each keyword and each punctuation symbol occurs in both texts equally often. -/
def SameCounts (c d : String) : Prop :=
  ∀ pattern ∈ featureKeywords ++ featurePunctuation.map Prod.snd,
    patternCount c pattern = patternCount d pattern

instance (c d : String) : Decidable (SameCounts c d) :=
  inferInstanceAs (Decidable (∀ _ ∈ _, _))

/-- The patterns that are counted are the keywords and then the punctuation. -/
theorem map_snd_labelledPatterns :
    labelledPatterns.map Prod.snd = featureKeywords ++ featurePunctuation.map Prod.snd :=
  rfl

/-- No two patterns have the same label. -/
theorem labels_nodup : (labelledPatterns.map Prod.fst).Nodup := by
  decide +kernel

/-- The colon that ends a label is not part of it. -/
theorem colon_notMem_label : ∀ p ∈ labelledPatterns, ':' ∉ p.1.toList := by
  decide +kernel

/-! ## One feature -/

/-- The digits of a number have no colon among them. -/
theorem colon_notMem_toString (n : ℕ) : ':' ∉ (toString n).toList := by
  intro h
  rw [Nat.toString_eq_ofList_toDigits, String.toList_ofList] at h
  have hdigit : ':'.isDigit = true := Nat.isDigit_of_mem_toDigits (by decide) (by decide) h
  exact absurd hdigit (by decide)

/-- A feature is told by its label and its count. -/
theorem featureText_inj {label label' : String} {n n' : ℕ} (hlabel : ':' ∉ label.toList) :
    featureText label n = featureText label' n' ↔ label = label' ∧ n = n' := by
  have hchars : ∀ l m, (featureText l m).toList = l.toList ++ ':' :: (toString m).toList := by
    intro l m
    rw [featureText, String.toList_append, String.toList_append, List.append_assoc]
    rfl
  constructor
  · intro h
    rw [← String.toList_inj, hchars, hchars,
      List.append_cons_inj_of_notMem hlabel (colon_notMem_toString n)] at h
    obtain ⟨hlabels, -, hcounts⟩ := h
    have hread := congrArg (fun digits => Nat.ofDigitChars 10 digits 0) hcounts
    exact ⟨String.toList_inj.1 hlabels, by simpa [Nat.toString_eq_ofList_toDigits] using hread⟩
  · rintro ⟨rfl, rfl⟩
    rfl

/-- What is reported of a pattern: its count, unless it is a keyword that does not occur. -/
def reported? (code : String) (p : String × String) : Option String :=
  let n := patternCount code p.2
  if 0 < n ∨ p ∈ featurePunctuation then some (featureText p.1 n) else none

/-- A pattern is reported where it occurs or is a punctuation mark, with its label and its count. -/
theorem reported?_eq_some {code t : String} {p : String × String} :
    reported? code p = some t ↔
      (0 < patternCount code p.2 ∨ p ∈ featurePunctuation) ∧
        featureText p.1 (patternCount code p.2) = t := by
  rw [reported?]
  split_ifs with h
  · rw [Option.some.injEq, and_iff_right h]
  · exact iff_of_false (by simp) fun hand => h hand.1

/-! ## All features -/

/-- The features of a text are what is reported of the patterns, in order. -/
theorem codeFeatures_eq_filterMap (code : String) :
    codeFeatures code = labelledPatterns.filterMap (reported? code) := by
  have hkeyword : ∀ k ∈ featureKeywords, (k, k) ∉ featurePunctuation := by decide +kernel
  have hpunctuation : (featurePunctuation.map fun p => featureText p.1 (patternCount code p.2)) =
      featurePunctuation.filterMap (reported? code) := by
    rw [← List.filterMap_eq_map']
    exact List.filterMap_congr fun p hp => (if_pos (Or.inr hp)).symm
  have hkeywords : (featureKeywords.filterMap fun k =>
        if patternCount code k > 0 then some (featureText k (patternCount code k)) else none) =
      featureKeywords.filterMap (reported? code ∘ fun k => (k, k)) := by
    refine List.filterMap_congr fun k hk => ?_
    simp only [Function.comp_apply, reported?, hkeyword k hk, or_false]
  rw [labelledPatterns, List.filterMap_append, List.filterMap_map, ← hpunctuation, ← hkeywords]
  rfl

/-- No feature is listed twice. -/
theorem codeFeatures_nodup (code : String) : (codeFeatures code).Nodup := by
  rw [codeFeatures_eq_filterMap, List.Nodup, List.pairwise_filterMap]
  refine (List.pairwise_map.1 labels_nodup).imp_of_mem fun {p q} hp _ hne t ht u hu htu => hne ?_
  obtain ⟨-, rfl⟩ := reported?_eq_some.1 ht
  obtain ⟨-, rfl⟩ := reported?_eq_some.1 hu
  exact ((featureText_inj (colon_notMem_label p hp)).1 htu).1

/-- A pattern has the feature with its own count and no other one, and a keyword has none where that
count is zero. -/
theorem featureText_mem_codeFeatures {code : String} {p : String × String} {n : ℕ}
    (hp : p ∈ labelledPatterns) : featureText p.1 n ∈ codeFeatures code ↔
      (0 < n ∨ p ∈ featurePunctuation) ∧ n = patternCount code p.2 := by
  rw [codeFeatures_eq_filterMap, List.mem_filterMap]
  constructor
  · rintro ⟨q, hq, hreported⟩
    obtain ⟨hshown, htext⟩ := reported?_eq_some.1 hreported
    obtain ⟨hlabel, rfl⟩ := (featureText_inj (colon_notMem_label q hq)).1 htext
    obtain rfl := List.inj_on_of_nodup_map labels_nodup hq hp hlabel
    exact ⟨hshown, rfl⟩
  · rintro ⟨hshown, rfl⟩
    exact ⟨p, hp, reported?_eq_some.2 ⟨hshown, rfl⟩⟩

/-- Every text has features, since the punctuation is always counted. -/
theorem codeFeatures_ne_nil (code : String) : codeFeatures code ≠ [] := by
  have hmem : featureText "openBrace" (patternCount code "\x7b") ∈ codeFeatures code :=
    (featureText_mem_codeFeatures (p := ("openBrace", "\x7b")) (by decide)).2
      ⟨.inr (by decide), rfl⟩
  exact List.ne_nil_of_mem hmem

/-- There are at most as many features as patterns. -/
theorem length_codeFeatures_le (code : String) :
    (codeFeatures code).length ≤ labelledPatterns.length := by
  rw [codeFeatures_eq_filterMap]
  exact List.length_filterMap_le _ _

/-- Texts with the same counts have the same features. -/
theorem SameCounts.codeFeatures_eq {c d : String} (h : SameCounts c d) :
    codeFeatures c = codeFeatures d := by
  rw [codeFeatures_eq_filterMap, codeFeatures_eq_filterMap]
  refine List.filterMap_congr fun p hp => ?_
  have hcount : patternCount c p.2 = patternCount d p.2 :=
    h p.2 (map_snd_labelledPatterns ▸ List.mem_map_of_mem hp)
  rw [reported?, reported?, hcount]

/-- Texts with the same features have the same counts. -/
theorem SameCounts.of_mem_iff {c d : String}
    (h : ∀ t, t ∈ codeFeatures c ↔ t ∈ codeFeatures d) : SameCounts c d := by
  intro pattern hpattern
  rw [← map_snd_labelledPatterns] at hpattern
  obtain ⟨p, hp, rfl⟩ := List.mem_map.1 hpattern
  have hfeature : ∀ n : ℕ,
      (0 < n ∨ p ∈ featurePunctuation) ∧ n = patternCount c p.2 ↔
        (0 < n ∨ p ∈ featurePunctuation) ∧ n = patternCount d p.2 := fun n =>
    (featureText_mem_codeFeatures hp).symm.trans
      ((h _).trans (featureText_mem_codeFeatures hp))
  -- A text that reports the pattern fixes the count of the other one; else neither has it.
  by_cases hc : 0 < patternCount c p.2 ∨ p ∈ featurePunctuation
  · exact ((hfeature _).1 ⟨hc, rfl⟩).2
  by_cases hd : 0 < patternCount d p.2 ∨ p ∈ featurePunctuation
  · exact ((hfeature _).2 ⟨hd, rfl⟩).2.symm
  · omega

/-- Two texts have the same features where every pattern occurs equally often in both. -/
theorem codeFeatures_eq_iff {c d : String} : codeFeatures c = codeFeatures d ↔ SameCounts c d :=
  ⟨fun h => .of_mem_iff fun _ => by rw [h], SameCounts.codeFeatures_eq⟩

/-! ## Features in common -/

section Shared

variable {a b : List String}

/-- Of lists without repetitions either one has as many features in common with the other. -/
theorem length_shared_comm (ha : a.Nodup) (hb : b.Nodup) :
    (a.filter b.contains).length = (b.filter a.contains).length := by
  refine ((List.perm_ext_iff_of_nodup (ha.filter _) (hb.filter _)).2 fun t => ?_).length_eq
  rw [List.mem_filter, List.mem_filter, List.contains_iff_mem, List.contains_iff_mem, and_comm]

/-- All of the longer list is in common where both hold the same. -/
theorem length_shared_eq_max (ha : a.Nodup) (hb : b.Nodup) :
    (a.filter b.contains).length = max a.length b.length ↔ ∀ t, t ∈ a ↔ t ∈ b := by
  have hleft : (a.filter b.contains).length = a.length ↔ ∀ t ∈ a, t ∈ b := by
    simp only [List.length_filter_eq_length_iff, List.contains_iff_mem]
  have hright : (a.filter b.contains).length = b.length ↔ ∀ t ∈ b, t ∈ a := by
    simp only [length_shared_comm ha hb, List.length_filter_eq_length_iff, List.contains_iff_mem]
  have hle : (a.filter b.contains).length ≤ a.length := List.length_filter_le ..
  have hle' : (a.filter b.contains).length ≤ b.length := by
    rw [length_shared_comm ha hb]
    exact List.length_filter_le ..
  constructor
  · intro heq t
    exact ⟨hleft.1 (by omega) t, hright.1 (by omega) t⟩
  · intro hsame
    have hall := hleft.2 fun t => (hsame t).1
    have hall' := hright.2 fun t => (hsame t).2
    omega

/-- The share of common features is symmetric where neither list repeats one. -/
theorem featureSimilarity_comm (ha : a.Nodup) (hb : b.Nodup) :
    (featureSimilarity a b : α) = featureSimilarity b a := by
  rw [featureSimilarity, featureSimilarity, length_shared_comm ha hb, Bool.and_comm, Bool.or_comm,
    max_comm]

/-- The share of common features is their number by the length of the longer list, where neither is
empty. -/
theorem featureSimilarity_of_ne_nil (ha : a ≠ []) (hb : b ≠ []) :
    (featureSimilarity a b : α) =
      ofNat (a.filter b.contains).length / ofNat (max a.length b.length) := by
  rw [featureSimilarity, List.isEmpty_eq_false_iff.2 ha, List.isEmpty_eq_false_iff.2 hb]
  rfl

end Shared

/-! ## Shares -/

/-- Numbers on which a share of no more things than there are patterns lies between zero and one and
is full only for all of them. -/
class ScoreShares (α : Type) [ScoreNumber α] : Prop where
  zero_ne_one : (zero : α) ≠ one
  share_scaled : ∀ whole ≤ labelledPatterns.length, ∀ part ≤ whole, 0 < whole →
    (zero : α) ≤ ofNat part / ofNat whole ∧ (ofNat part / ofNat whole : α) ≤ one ∧
      ((ofNat part / ofNat whole : α) = one ↔ part = whole)

instance : ScoreShares Rat where
  zero_ne_one := zero_ne_one
  share_scaled whole _ part hpart hpos := by
    have hwhole : (0 : Rat) < whole := Nat.cast_pos.2 hpos
    have hle : (part : Rat) / whole ≤ 1 := (div_le_one hwhole).2 (Nat.cast_le.2 hpart)
    have hfull : (part : Rat) / whole = 1 ↔ part = whole :=
      (div_eq_one_iff_eq hwhole.ne').trans Nat.cast_inj
    exact ⟨div_nonneg (Nat.cast_nonneg part) hwhole.le, hle, hfull⟩

/-- The quotients of so few numbers are computed one by one. -/
instance : ScoreShares Float where
  zero_ne_one := by decide +kernel
  share_scaled := by decide +kernel

/-- Zero is at most one. -/
theorem ScoreShares.zero_le_one [ScoreOrder α] [ScoreShares α] : (zero : α) ≤ one := by
  obtain ⟨hzero, hone, -⟩ := share_scaled (α := α) 1 (by decide) 0 (by decide) (by decide)
  exact ScoreOrder.le_trans hzero hone

/-! ## Missing texts -/

section Missing

variable {f : String → String → α}

/-- The similarity of texts that may be missing is symmetric where that of texts is. -/
theorem similarityOfMissing_comm (h : ∀ a b, f a b = f b a) (a b : Option String) :
    similarityOfMissing f a b = similarityOfMissing f b a := by
  rcases a with _ | a <;> rcases b with _ | b
  · rfl
  · rfl
  · rfl
  · exact h a b

/-- The similarity of texts that may be missing lies between 0 and 1 where that of texts does. -/
theorem similarityOfMissing_scaled (hscale : (zero : α) ≤ zero ∧ (zero : α) ≤ one ∧ (one : α) ≤ one)
    (h : ∀ a b, zero ≤ f a b ∧ f a b ≤ one) (a b : Option String) :
    zero ≤ similarityOfMissing f a b ∧ similarityOfMissing f a b ≤ one := by
  obtain ⟨hzero, hle, hone⟩ := hscale
  rcases a with _ | a <;> rcases b with _ | b
  · exact ⟨hle, hone⟩
  · exact ⟨hzero, hle⟩
  · exact ⟨hzero, hle⟩
  · exact h a b

/-- Full similarity of texts that may be missing: both are, or neither is and the texts are fully
similar. -/
theorem similarityOfMissing_eq_one (hne : (zero : α) ≠ one) {R : String → String → Prop}
    (h : ∀ a b, f a b = one ↔ R a b) (a b : Option String) :
    similarityOfMissing f a b = one ↔ Option.Rel R a b := by
  rcases a with _ | a <;> rcases b with _ | b
  · exact iff_of_true rfl .none
  · exact iff_of_false hne (by simp)
  · exact iff_of_false hne (by simp)
  · exact (h a b).trans Option.rel_some_some.symm

end Missing

/-! ## The similarity of structures -/

section Structure

variable [ScoreShares α]

/-- The structural similarity of two texts lies between 0 and 1, and is 1 where all patterns occur
equally often. -/
theorem featureSimilarity_codeFeatures (c d : String) :
    (zero : α) ≤ featureSimilarity (codeFeatures c) (codeFeatures d) ∧
      (featureSimilarity (codeFeatures c) (codeFeatures d) : α) ≤ one ∧
      ((featureSimilarity (codeFeatures c) (codeFeatures d) : α) = one ↔ SameCounts c d) := by
  have hne := codeFeatures_ne_nil c
  have hpos : 0 < (codeFeatures c).length := List.length_pos_iff.2 hne
  have hc := length_codeFeatures_le c
  have hd := length_codeFeatures_le d
  have hpart : ((codeFeatures c).filter (codeFeatures d).contains).length ≤
      max (codeFeatures c).length (codeFeatures d).length :=
    (List.length_filter_le ..).trans (le_max_left _ _)
  obtain ⟨hzero, hone, hfull⟩ := ScoreShares.share_scaled (α := α)
    (max (codeFeatures c).length (codeFeatures d).length) (by omega) _ hpart (by omega)
  rw [featureSimilarity_of_ne_nil hne (codeFeatures_ne_nil d)]
  refine ⟨hzero, hone, hfull.trans ?_⟩
  rw [length_shared_eq_max (codeFeatures_nodup c) (codeFeatures_nodup d)]
  exact ⟨.of_mem_iff, fun h t => by rw [h.codeFeatures_eq]⟩

/-- The share of common features is not the same both ways for lists with repetitions. -/
theorem featureSimilarity_repeated :
    (featureSimilarity ["if:1", "if:1"] ["if:1"] : α) ≠ featureSimilarity ["if:1"] ["if:1", "if:1"] := by
  intro h
  have hhalf := ScoreShares.share_scaled (α := α) 2 (by decide) 1 (by decide) (by decide)
  have hfull := ScoreShares.share_scaled (α := α) 2 (by decide) 2 (by decide) (by decide)
  have hone : (ofNat 2 / ofNat 2 : α) = one := hfull.2.2.2 rfl
  exact absurd (hhalf.2.2.1 (h.symm.trans hone)) (by decide)

/-- No feature of a text is listed twice. The similarity of the structure of two texts that may be
missing is therefore the same both ways, which the share of common features is not for lists with
repetitions. It lies between zero and one, is zero where one of the texts is missing, and is one
where both are or where each of the keywords and punctuation symbols occurs in both texts equally
often. -/
theorem structuralSimilarity_scaled [ScoreOrder α] (a b : Option String) :
    (∀ code, (codeFeatures code).Nodup) ∧
      (structuralSimilarity a b : α) = structuralSimilarity b a ∧
      (∃ x y : List String, ¬ x.Nodup ∧ (featureSimilarity x y : α) ≠ featureSimilarity y x) ∧
      (zero ≤ (structuralSimilarity a b : α) ∧ (structuralSimilarity a b : α) ≤ one) ∧
      (∀ c, (structuralSimilarity none (some c) : α) = zero) ∧
      ((structuralSimilarity a b : α) = one ↔ Option.Rel SameCounts a b) := by
  have hle : (zero : α) ≤ one := ScoreShares.zero_le_one
  obtain ⟨hzero, hone⟩ := ScoreOrder.le_self hle
  refine ⟨codeFeatures_nodup, ?_, ?_, ?_, fun _ => rfl, ?_⟩
  · exact similarityOfMissing_comm (fun c d =>
      featureSimilarity_comm (codeFeatures_nodup c) (codeFeatures_nodup d)) a b
  · exact ⟨_, _, by decide, featureSimilarity_repeated⟩
  · refine similarityOfMissing_scaled ⟨hzero, hle, hone⟩ (fun c d => ?_) a b
    obtain ⟨hc, hd, -⟩ := featureSimilarity_codeFeatures (α := α) c d
    exact ⟨hc, hd⟩
  · exact similarityOfMissing_eq_one ScoreShares.zero_ne_one
      (fun c d => (featureSimilarity_codeFeatures c d).2.2) a b

end Structure

/-- A statement in one line, the same one in several, and another one. -/
def oneLine : String := "return f();"

def severalLines : String := "RETURN\n\tf();"

def otherLine : String := "return this;"

/-- As doubles, the first two are fully similar, and the first and the third are not. -/
theorem structuralSimilarity_scaled_oneLine :
    (structuralSimilarity (some oneLine) (some severalLines) : Float) = one ∧
      (structuralSimilarity (some oneLine) (some otherLine) : Float) =
        structuralSimilarity (some otherLine) (some oneLine) ∧
      (structuralSimilarity (some oneLine) (some otherLine) : Float) ≤ one ∧
      (structuralSimilarity (some oneLine) (some otherLine) : Float) ≠ one := by
  have hsame : SameCounts oneLine severalLines := by decide +kernel
  have hdiffer : ¬ SameCounts oneLine otherLine := by decide +kernel
  obtain ⟨-, -, -, -, -, hfull⟩ :=
    structuralSimilarity_scaled (α := Float) (some oneLine) (some severalLines)
  obtain ⟨-, hcomm, -, ⟨-, hle⟩, -, hfull'⟩ :=
    structuralSimilarity_scaled (α := Float) (some oneLine) (some otherLine)
  exact ⟨hfull.2 (.some hsame), hcomm, hle, fun hone =>
    hdiffer (Option.rel_some_some.1 (hfull'.1 hone))⟩

end StructureGrader
