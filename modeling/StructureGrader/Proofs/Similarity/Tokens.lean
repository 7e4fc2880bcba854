import StructureGrader.Proofs.Text.MaximalRuns
import StructureGrader.Proofs.Text.SmallLetters
import StructureGrader.Similarity.Tokens
import Mathlib.Algebra.Field.Rat
import Mathlib.Algebra.Order.Field.Basic
import Mathlib.Algebra.Order.Ring.Rat
import Mathlib.Data.Finset.Card
import Mathlib.Data.String.Basic
import Mathlib.Logic.Relation

/-!
# Tokens as a set

Once all other characters are spaces a text is ASCII, so its small letters are those of its
characters one by one, and its words are its maximal runs of token characters (`tokenList_eq`). The
tokens are therefore these runs in small letters, each listed once (`mem_tokenSet_iff`,
`tokenSet_nodup`), and texts with the same tokens have the same list (`tokenSet_eq_of_mem_iff`). How
a text is told with its tokens does not matter: letters may be capital or small, the other
characters are any others, and the tokens may come in any order and any number of times
(`Retold.tokenSet_eq`).

The similarity of two texts is the share of common tokens (`tokenSimilarity_eq`). It is full for equal
sets alone and nothing for disjoint ones (`commonShare_eq_one`, `commonShare_eq_zero`).
-/

namespace StructureGrader

open Text ScoreNumber

variable {a b : String} {runs runs' : List (List Char)}

/-! ## The tokens of a text -/

/-- A run of token characters in small letters. -/
def tokenOf (run : List Char) : String :=
  String.ofList (run.map Char.toLower)

/-- A character of a token is in ASCII. -/
theorem toNat_lt_of_isTokenChar {c : Char} (h : isTokenChar c = true) : c.toNat < 128 := by
  delta isTokenChar Char.isAlphanum Char.isAlpha Char.isUpper Char.isLower Char.isDigit at h
  simp only [Bool.or_eq_true, Bool.and_eq_true, decide_eq_true_eq, beq_iff_eq, ge_iff_le,
    UInt32.le_iff_toNat_le] at h
  have hascii : 'Z'.val.toNat < 128 ∧ 'z'.val.toNat < 128 ∧ '9'.val.toNat < 128 ∧ '_'.toNat < 128 := by
    decide
  obtain ((h | h) | h) | rfl := h
  · exact h.2.trans_lt hascii.1
  · exact h.2.trans_lt hascii.2.1
  · exact h.2.trans_lt hascii.2.2.1
  · exact hascii.2.2.2

/-- A character of a token is not blank in small letters. -/
theorem isBlank_toLower {c : Char} (h : isTokenChar c = true) : isBlank c.toLower = false := by
  have hall : ∀ n < 128, isTokenChar (Char.ofNat n) = true → isBlank (Char.ofNat n).toLower = false := by
    decide +kernel
  rw [← Char.ofNat_toNat c] at h ⊢
  exact hall c.toNat (toNat_lt_of_isTokenChar (by rwa [Char.ofNat_toNat] at h)) h

/-- The tokens are the words of a text that has spaces and small letters in place of its characters.
-/
theorem tokenList_eq (text : String) : tokenList text =
    (wordsOf (text.toList.map fun c => if isTokenChar c then c.toLower else ' ')).map String.ofList := by
  have hascii : ∀ d ∈ text.toList.map (fun c => if isTokenChar c then c else ' '), d.toNat < 128 := by
    intro d hd
    obtain ⟨c, -, rfl⟩ := List.mem_map.1 hd
    split
    · exact toNat_lt_of_isTokenChar ‹_›
    · decide
  have hspace : ' '.toLower = ' ' := by decide
  unfold tokenList words lower lowerChars tokenCharsOnly
  rw [String.toList_ofList, String.toList_ofList, lowerFrom_of_ascii hascii, List.map_map]
  simp only [Function.comp_def, apply_ite Char.toLower, hspace]

/-- The tokens of a text laid out in runs are these runs in small letters. -/
theorem tokenList_of_laidOut (h : LaidOut isTokenChar runs a.toList) :
    tokenList a = runs.map tokenOf := by
  rw [tokenList_eq, h.wordsOf_map fun c hc => isBlank_toLower hc, List.map_map]
  rfl

/-- The set of tokens has the tokens that are listed. -/
theorem mem_tokenSet {w : String} : w ∈ tokenSet a ↔ w ∈ tokenList a := by
  unfold tokenSet
  rw [List.mem_mergeSort, List.mem_eraseDups]

/-- The tokens of a text are its maximal runs of token characters, in small letters. -/
theorem mem_tokenSet_iff {w : String} : w ∈ tokenSet a ↔ ∃ front run rest,
    MaximalRun isTokenChar front run rest ∧ a.toList = front ++ (run ++ rest) ∧ w = tokenOf run := by
  rw [mem_tokenSet]
  constructor
  · intro h
    obtain ⟨runs, hruns⟩ := exists_laidOut isTokenChar a.toList
    rw [tokenList_of_laidOut hruns] at h
    obtain ⟨run, hrun, rfl⟩ := List.mem_map.1 h
    obtain ⟨front, rest, hmax, ha⟩ := hruns.exists_maximalRun hrun
    exact ⟨front, run, rest, hmax, ha, rfl⟩
  · rintro ⟨front, run, rest, hmax, ha, rfl⟩
    obtain ⟨runs, hrun, hruns⟩ := hmax.exists_laidOut_mem
    rw [← ha] at hruns
    rw [tokenList_of_laidOut hruns]
    exact List.mem_map_of_mem hrun

/-- A list without its repetitions repeats nothing. -/
theorem nodup_eraseDups (ws : List String) : ws.eraseDups.Nodup := by
  induction hlength : ws.length using Nat.strong_induction_on generalizing ws with
  | _ n ih =>
    cases ws with
    | nil => exact List.nodup_nil
    | cons w ws =>
      have hshorter : (ws.filter fun v => !v == w).length < n :=
        (Nat.lt_succ_of_le (List.length_filter_le _ ws)).trans_eq hlength
      rw [List.eraseDups_cons, List.nodup_cons, List.mem_eraseDups]
      exact ⟨by simp, ih _ hshorter _ rfl⟩

/-- No token is in the set twice. -/
theorem tokenSet_nodup (a : String) : (tokenSet a).Nodup :=
  (List.mergeSort_perm _ _).nodup_iff.2 (nodup_eraseDups (tokenList a))

/-- The set of tokens is in order. -/
theorem tokenSet_pairwise (a : String) : (tokenSet a).Pairwise (· ≤ ·) := by
  have hsorted : (tokenSet a).Pairwise fun v w => decide (v ≤ w) = true := by
    refine List.pairwise_mergeSort (fun u v w huv hvw => ?_) (fun v w => ?_) _
    · exact decide_eq_true (le_trans (of_decide_eq_true huv) (of_decide_eq_true hvw))
    · simpa using le_total v w
  exact hsorted.imp of_decide_eq_true

/-- Texts with the same tokens have the same set of tokens. -/
theorem tokenSet_eq_of_mem_iff (h : ∀ w, w ∈ tokenSet a ↔ w ∈ tokenSet b) : tokenSet a = tokenSet b :=
  List.Perm.eq_of_pairwise (fun _ _ _ _ => le_antisymm) (tokenSet_pairwise a) (tokenSet_pairwise b)
    ((List.perm_ext_iff_of_nodup (tokenSet_nodup a) (tokenSet_nodup b)).2 h)

/-! ## The same tokens told in another way -/

/-- Characters that are the same in tokens: a letter in both cases, or two of which no token is
made. -/
def TokenAlike (c d : Char) : Prop :=
  isTokenChar c = isTokenChar d ∧ (isTokenChar c = true → c.toLower = d.toLower)

instance (c d : Char) : Decidable (TokenAlike c d) :=
  inferInstanceAs (Decidable (_ ∧ _))

/-- A change to a text that keeps its tokens. -/
inductive Retelling : String → String → Prop
  | respelled {a b : String} (alike : List.Forall₂ TokenAlike a.toList b.toList) : Retelling a b
  | reordered {a b : String} {runs runs' : List (List Char)} (perm : runs.Perm runs')
      (before : LaidOut isTokenChar runs a.toList) (after : LaidOut isTokenChar runs' b.toList) :
      Retelling a b
  | repeated {a b : String} {run : List Char} {runs : List (List Char)} (mem : run ∈ runs)
      (before : LaidOut isTokenChar runs a.toList)
      (after : LaidOut isTokenChar (run :: runs) b.toList) : Retelling a b

/-- One text comes from the other by such changes and their reversals. -/
def Retold : String → String → Prop :=
  Relation.EqvGen Retelling

/-- A text told again, by one change, has the same set of tokens. -/
theorem Retelling.tokenSet_eq (h : Retelling a b) : tokenSet a = tokenSet b := by
  refine tokenSet_eq_of_mem_iff fun w => ?_
  rw [mem_tokenSet, mem_tokenSet]
  cases h with
  | respelled halike =>
    have hsame : a.toList.map (fun c => if isTokenChar c then c.toLower else ' ') =
        b.toList.map fun c => if isTokenChar c then c.toLower else ' ' := by
      rw [← List.forall₂_eq_eq_eq, List.forall₂_map_left_iff, List.forall₂_map_right_iff]
      refine halike.imp fun c d hcd => ?_
      rw [← hcd.1]
      exact ite_congr rfl hcd.2 fun _ => rfl
    rw [tokenList_eq, tokenList_eq, hsame]
  | reordered hperm hbefore hafter =>
    rw [tokenList_of_laidOut hbefore, tokenList_of_laidOut hafter, (hperm.map tokenOf).mem_iff]
  | repeated hmem hbefore hafter =>
    rw [tokenList_of_laidOut hbefore, tokenList_of_laidOut hafter, List.map_cons, List.mem_cons,
      or_iff_right_of_imp]
    rintro rfl
    exact List.mem_map_of_mem hmem

/-- A text told again, by any number of changes, has the same set of tokens. -/
theorem Retold.tokenSet_eq (h : Retold a b) : tokenSet a = tokenSet b := by
  induction h with
  | rel a b h => exact h.tokenSet_eq
  | refl a => rfl
  | symm a b _ ih => exact ih.symm
  | trans a b c _ _ ih ih' => exact ih.trans ih'

/-! ## The share of common tokens -/

/-- The share of common members of two sets, which is full when there are no members at all. -/
def commonShare (s t : Finset String) : Rat :=
  if s ∪ t = ∅ then 1 else (s ∩ t).card / (s ∪ t).card

/-- The tokens of a text as a set. -/
def tokens (a : String) : Finset String :=
  (tokenSet a).toFinset

section Share

variable {s t : Finset String}

/-- The common share of two sets is symmetric. -/
theorem commonShare_comm (s t : Finset String) : commonShare s t = commonShare t s := by
  rw [commonShare, commonShare, Finset.union_comm, Finset.inter_comm]

/-- Two sets that are not both empty have a union with something in it. -/
theorem card_union_pos (h : s ∪ t ≠ ∅) : (0 : Rat) < (s ∪ t).card :=
  Nat.cast_pos.2 (Finset.card_pos.2 (Finset.nonempty_iff_ne_empty.2 h))

/-- The common share of two sets lies between 0 and 1. -/
theorem commonShare_mem (s t : Finset String) : 0 ≤ commonShare s t ∧ commonShare s t ≤ 1 := by
  rw [commonShare]
  split_ifs with hempty
  · exact ⟨zero_le_one, le_rfl⟩
  · have hpos := card_union_pos hempty
    have hle : (s ∩ t).card ≤ (s ∪ t).card :=
      Finset.card_le_card (Finset.inter_subset_left.trans Finset.subset_union_left)
    exact ⟨div_nonneg (Nat.cast_nonneg _) hpos.le, (div_le_one hpos).2 (Nat.cast_le.2 hle)⟩

/-- The share is full for equal sets: of others some member is not common. -/
theorem commonShare_eq_one : commonShare s t = 1 ↔ s = t := by
  rw [commonShare]
  split_ifs with hempty
  · obtain ⟨hs, ht⟩ := Finset.union_eq_empty.1 hempty
    exact iff_of_true rfl (hs.trans ht.symm)
  · rw [div_eq_one_iff_eq (card_union_pos hempty).ne', Nat.cast_inj]
    constructor
    · intro hcard
      have hall : s ∩ t = s ∪ t := Finset.eq_of_subset_of_card_le
        (Finset.inter_subset_left.trans Finset.subset_union_left) hcard.ge
      exact inf_eq_sup.1 hall
    · rintro rfl
      rw [Finset.inter_self, Finset.union_self]

/-- The common share of two sets is 0 where they have nothing in common and are not both empty. -/
theorem commonShare_eq_zero :
    commonShare s t = 0 ↔ Disjoint s t ∧ ¬ (s = ∅ ∧ t = ∅) := by
  rw [commonShare, ← Finset.union_eq_empty, Finset.disjoint_iff_inter_eq_empty]
  split_ifs with hempty
  · exact iff_of_false one_ne_zero fun h => h.2 hempty
  · rw [div_eq_zero_iff, or_iff_left (card_union_pos hempty).ne', Nat.cast_eq_zero,
      Finset.card_eq_zero, and_iff_left hempty]

end Share

/-- The tokens of a text are those listed, as a set. -/
theorem tokens_eq (a : String) : tokens a = (tokenList a).toFinset := by
  ext w
  rw [tokens, List.mem_toFinset, List.mem_toFinset, mem_tokenSet]

/-- The similarity by tokens is the common share of the sets of tokens. -/
theorem tokenSimilarity_eq (a b : String) :
    (tokenSimilarity a b : Rat) = commonShare (tokens a) (tokens b) := by
  have hempty : ∀ a, (tokenSet a).isEmpty = true ↔ tokens a = ∅ := fun a =>
    List.isEmpty_iff.trans (List.toFinset_eq_empty_iff _).symm
  have hcard : ∀ a, (tokenSet a).length = (tokens a).card := fun a =>
    (List.toFinset_card_of_nodup (tokenSet_nodup a)).symm
  have hshared : ((tokenSet a).filter (tokenSet b).contains).length = (tokens a ∩ tokens b).card := by
    rw [← List.toFinset_card_of_nodup ((tokenSet_nodup a).filter _)]
    congr 1
    ext w
    simp [tokens]
  have hall : (tokens a).card + (tokens b).card - (tokens a ∩ tokens b).card =
      (tokens a ∪ tokens b).card := (Finset.card_union _ _).symm
  unfold tokenSimilarity commonShare
  dsimp only
  rw [hshared, hcard, hcard, hall]
  simp only [Bool.and_eq_true, Bool.or_eq_true, hempty, ← Finset.union_eq_empty]
  by_cases hnone : tokens a ∪ tokens b = ∅
  · rw [if_pos hnone, if_pos hnone]
    rfl
  · rw [if_neg hnone, if_neg hnone]
    split_ifs with hone
    · have hcommon : tokens a ∩ tokens b = ∅ := by
        obtain ha | hb := hone
        · rw [ha, Finset.empty_inter]
        · rw [hb, Finset.inter_empty]
      rw [hcommon, Finset.card_empty, Nat.cast_zero, zero_div]
      rfl
    · rfl

/-- The tokens of a text are its maximal runs of ASCII letters, digits and underscores in small
letters, each listed once. The similarity of two texts is the number of common tokens over the
number of all tokens, and one where there are none. It is the same both ways and lies between zero
and one; it is one for texts with the same tokens, and zero for texts without a common token that
are not both without tokens. It does not change when one text or both are told in another way: with
capital for small letters, with any others in place of the characters that are not in tokens, with
tokens in another order or more often. -/
theorem jaccardSimilarity_tokens (a b : String) :
    (∀ text : String, (tokenSet text).Nodup ∧ ∀ w, w ∈ tokenSet text ↔ ∃ front run rest,
      MaximalRun isTokenChar front run rest ∧ text.toList = front ++ (run ++ rest) ∧ w = tokenOf run) ∧
    (jaccardSimilarity (some a) (some b) : Rat) =
      (if tokens a = ∅ ∧ tokens b = ∅ then 1
        else ((tokens a ∩ tokens b).card : Rat) / (tokens a ∪ tokens b).card) ∧
    (jaccardSimilarity (some a) (some b) : Rat) = jaccardSimilarity (some b) (some a) ∧
    (0 ≤ (jaccardSimilarity (some a) (some b) : Rat) ∧
      (jaccardSimilarity (some a) (some b) : Rat) ≤ 1) ∧
    ((jaccardSimilarity (some a) (some b) : Rat) = 1 ↔ tokens a = tokens b) ∧
    ((jaccardSimilarity (some a) (some b) : Rat) = 0 ↔
      Disjoint (tokens a) (tokens b) ∧ ¬ (tokens a = ∅ ∧ tokens b = ∅)) ∧
    ∀ a' b' : String, Retold a a' → Retold b b' →
      (jaccardSimilarity (some a') (some b') : Rat) = jaccardSimilarity (some a) (some b) := by
  have hvalue : ∀ a b : String,
      (jaccardSimilarity (some a) (some b) : Rat) = commonShare (tokens a) (tokens b) :=
    tokenSimilarity_eq
  refine ⟨fun text => ⟨tokenSet_nodup text, fun w => mem_tokenSet_iff⟩, ?_, ?_, ?_, ?_, ?_, ?_⟩
  · rw [hvalue, commonShare]
    exact if_congr Finset.union_eq_empty rfl rfl
  · rw [hvalue, hvalue, commonShare_comm]
  · rw [hvalue]
    exact commonShare_mem _ _
  · rw [hvalue]
    exact commonShare_eq_one
  · rw [hvalue]
    exact commonShare_eq_zero
  · intro a' b' ha hb
    rw [hvalue, hvalue, tokens, tokens, tokens, tokens, ha.tokenSet_eq, hb.tokenSet_eq]

/-- Characters that are known one by one are tested one by one. -/
theorem laidOut_of_all {gap run rest : List Char} {runs : List (List Char)}
    (hgap : gap.all (!isTokenChar ·)) (hne : run ≠ []) (hrun : run.all isTokenChar)
    (hbehind : rest.head?.all (!isTokenChar ·)) (hmore : LaidOut isTokenChar runs rest) :
    LaidOut isTokenChar (run :: runs) (gap ++ (run ++ rest)) := by
  simp only [List.all_eq_true, Option.all_eq_true, Bool.not_eq_true'] at hgap hrun hbehind
  exact .run hgap hne hrun hbehind hmore

/-- The two tokens of a call the other way round, and one of them once more, in other letters. -/
theorem retold_call : Retold "foo(bar)" "foo bar, FOO" := by
  have hcall : LaidOut isTokenChar ["foo".toList, "bar".toList] "foo(bar)".toList := by
    show LaidOut _ _ ([] ++ ("foo".toList ++ (['('] ++ ("bar".toList ++ [')']))))
    exact laidOut_of_all (by decide) (by decide) (by decide) (by decide)
      (laidOut_of_all (by decide) (by decide) (by decide) (by decide)
        (.gap (List.forall_mem_singleton.2 rfl)))
  have hturned : LaidOut isTokenChar ["bar".toList, "foo".toList] "bar, foo".toList := by
    show LaidOut _ _ ([] ++ ("bar".toList ++ ([',', ' '] ++ ("foo".toList ++ []))))
    exact laidOut_of_all (by decide) (by decide) (by decide) (by decide)
      (laidOut_of_all (by decide) (by decide) (by decide) (by decide) (.gap (List.forall_mem_nil _)))
  have htwice : LaidOut isTokenChar ["foo".toList, "bar".toList, "foo".toList]
      "foo bar, foo".toList := by
    show LaidOut _ _ ([] ++ ("foo".toList ++ ([' '] ++ "bar, foo".toList)))
    exact laidOut_of_all (by decide) (by decide) (by decide) (by decide)
      (hturned.gap_append (List.forall_mem_singleton.2 rfl))
  have hletters : List.Forall₂ TokenAlike "foo bar, foo".toList "foo bar, FOO".toList := by decide
  exact .trans _ _ _ (.rel _ _ (.reordered (.swap _ _ []) hcall hturned))
    (.trans _ _ _ (.rel _ _ (.repeated (by decide) hturned htwice)) (.rel _ _ (.respelled hletters)))

/-- The call has the same similarity to other texts when it is told in this way. -/
theorem jaccardSimilarity_tokens_call :
    Retold "foo(bar)" "foo bar, FOO" ∧ tokens "foo(bar)" = {"foo", "bar"} ∧
      (jaccardSimilarity (some "foo(bar)") (some "Bar") : Rat) = 1 / 2 ∧
      (jaccardSimilarity (some "foo bar, FOO") (some "Bar") : Rat) = 1 / 2 := by
  have htokens : tokens "foo(bar)" = {"foo", "bar"} := by
    rw [tokens_eq]
    decide +kernel
  have hother : tokens "Bar" = {"bar"} := by
    rw [tokens_eq]
    decide +kernel
  obtain ⟨-, hshare, -, -, -, -, hretold⟩ := jaccardSimilarity_tokens "foo(bar)" "Bar"
  have hhalf : (jaccardSimilarity (some "foo(bar)") (some "Bar") : Rat) = 1 / 2 := by
    rw [hshare, htokens, hother]
    decide +kernel
  exact ⟨retold_call, htokens, hhalf, (hretold _ _ retold_call (.refl _)).trans hhalf⟩

end StructureGrader
