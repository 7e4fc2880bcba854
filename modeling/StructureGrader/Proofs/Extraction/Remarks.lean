import StructureGrader.Proofs.Extraction.Declarations
import StructureGrader.Proofs.Extraction.Views
import StructureGrader.Proofs.Syntax.Remarks

/-!
# Where remarks show

A comment is text of the constructs around it, so a remark shows in a signature when it stands
inside of a type, of a clause that lists types, or of a parameter of variable arity
(`Tree.showsBefore`). Anywhere else a remark between two tokens changes no kind, name or signature
(`elementsOf_remarked`): a construct of which a signature shows the text has the remark before its
first token or behind its last one, and looks the same (`sameView_of_tail`).
-/

namespace StructureGrader

open Syntax Text
open Syntax.Tree (tokensOfAll)

/-! ## The place of a remark -/

mutual

/-- Whether the place before token number `n` of a tree is inside of a construct of which a
signature shows the text. -/
def Syntax.Tree.showsBefore : Nat → Tree → Bool
  | _, .leaf _ _ => false
  | n, .node k cs => isVerbatim k && n != 0 || anyShowsBefore n cs

/-- The same for the tokens of a list of trees. -/
def anyShowsBefore : Nat → List Tree → Bool
  | _, [] => false
  | n, c :: cs =>
    if n < c.tokens.length then c.showsBefore n else anyShowsBefore (n - c.tokens.length) cs

end

/-! ## Trees with the same tokens -/

/-- Trees of the same shape have as many tokens. -/
theorem length_tokens_eq {f : Token → Token} {t t' : Tree} (h : t'.mapTokens f = t.mapTokens f) :
    t'.tokens.length = t.tokens.length := by
  rw [← List.length_map f, ← tokens_mapTokens, h, tokens_mapTokens, List.length_map]

mutual

/-- Trees of the same shape with the same tokens are the same. -/
theorem eq_of_tokens_eq {f : Token → Token} : ∀ {t t' : Tree},
    t'.mapTokens f = t.mapTokens f → t'.tokens = t.tokens → t' = t
  | .leaf k x, .leaf k' x', h, htokens => by
    obtain ⟨rfl, -⟩ := Tree.leaf.inj h
    obtain rfl : x' = x := (List.cons.inj htokens).1
    rfl
  | .node k cs, .node k' cs', h, htokens => by
    obtain ⟨rfl, hcs⟩ := Tree.node.inj h
    rw [eq_of_tokensOfAll_eq hcs htokens]
  | .leaf _ _, .node _ _, h, _ => by cases h
  | .node _ _, .leaf _ _, h, _ => by cases h

/-- Trees of the same shape with the same tokens are the same. -/
theorem eq_of_tokensOfAll_eq {f : Token → Token} : ∀ {cs cs' : List Tree},
    mapTokensOfAll f cs' = mapTokensOfAll f cs → tokensOfAll cs' = tokensOfAll cs → cs' = cs
  | [], [], _, _ => rfl
  | c :: cs, c' :: cs', h, htokens => by
    obtain ⟨hc, hcs⟩ := List.cons.inj h
    obtain ⟨hfirst, hmore⟩ := List.append_inj htokens (length_tokens_eq hc)
    rw [eq_of_tokens_eq hc hfirst, eq_of_tokensOfAll_eq hcs hmore]
  | [], _ :: _, h, _ => by cases h
  | _ :: _, [], h, _ => by cases h

end

/-- The source of a tree does not depend on the trivia in front of it. -/
theorem source_eq_of_tail {t t' : Tree}
    (hhead : t'.tokens.head?.map Token.text = t.tokens.head?.map Token.text)
    (htail : t'.tokens.tail = t.tokens.tail) : t'.source = t.source := by
  have hform : ∀ u : Tree, u.source =
      (u.tokens.head?.map Token.text).getD "" ++ textOf u.tokens.tail := by
    intro u
    unfold Tree.source
    cases u.tokens with
    | nil => rfl
    | cons x xs => rfl
  rw [hform, hform, hhead, htail]

/-- Solid trees of the same shape look the same when only the trivia in front of them differs: that
is outside of their text. -/
theorem sameView_of_tail {f : Token → Token} {t t' : Tree} (h : t.Solid) (h' : t'.Solid)
    (hshape : t'.mapTokens f = t.mapTokens f)
    (hhead : t'.tokens.head?.map Token.text = t.tokens.head?.map Token.text)
    (htail : t'.tokens.tail = t.tokens.tail) : SameView t' t := by
  refine ⟨congrArg tidy (source_eq_of_tail hhead htail), ?_⟩
  cases h with
  | leaf k x =>
    cases h' with
    | leaf k' x' => rfl
    | node _ _ _ => cases hshape
  | @node k cs hkind hne hparts =>
    cases h' with
    | leaf k' x' => cases hshape
    | @node k' cs' hkind' hne' hparts' =>
      obtain ⟨c, cs, rfl⟩ := List.exists_cons_of_ne_nil hne
      obtain ⟨c', cs', rfl⟩ := List.exists_cons_of_ne_nil hne'
      obtain ⟨-, hcs⟩ := Tree.node.inj hshape
      obtain ⟨hc, hmore⟩ := List.cons.inj hcs
      obtain ⟨x, xs, hx⟩ := List.exists_cons_of_ne_nil (hparts c List.mem_cons_self).tokens_ne_nil
      obtain ⟨x', xs', hx'⟩ :=
        List.exists_cons_of_ne_nil (hparts' c' List.mem_cons_self).tokens_ne_nil
      have hlength := length_tokens_eq hc
      rw [hx, hx'] at hlength
      -- Only the first part has a token with other trivia in front.
      rw [Tree.tokens, Tree.tokens, tokensOfAll, tokensOfAll, hx, hx'] at hhead htail
      obtain ⟨hxs, htokens⟩ := List.append_inj htail (Nat.succ_inj.1 hlength)
      obtain rfl := eq_of_tokensOfAll_eq hmore htokens
      have hkindFirst : c'.kind = c.kind := by
        rw [← kind_mapTokens c', hc, kind_mapTokens]
      have hsourceFirst : c'.source = c.source := by
        refine source_eq_of_tail ?_ ?_ <;> rw [hx, hx']
        · exact hhead
        · exact hxs
      have hview : partView (.child c') = partView (.child c) :=
        congrArg₂ (fun k s => (some k, tidy s)) hkindFirst hsourceFirst
      have hnamed : (Part.child c').isNamed = (Part.child c).isNamed :=
        congrArg (fun k => some k != some Kind.mark) hkindFirst
      show ((Part.child c' :: partsAfter cs').filter Part.isNamed).map partView =
        ((Part.child c :: partsAfter cs').filter Part.isNamed).map partView
      rw [List.filter_cons, List.filter_cons, hnamed]
      split_ifs
      · rw [List.map_cons, List.map_cons, hview]
      · rfl

/-! ## Kin trees -/

/-- Every tree that is well formed is kin to itself. -/
theorem Syntax.Tree.Solid.kin_self {t : Tree} (h : t.Solid) : t.Kin t := by
  induction h with
  | leaf k x => exact .leaf k rfl
  | node hkind _ _ ih => exact .node hkind (fun _ => ⟨rfl, rfl⟩) (List.forall₂_same.2 ih)

/-- A remark before the first token. -/
theorem Syntax.Remark.Before.of_zero {r : Remark} {ts ts' : List Token} (h : r.Before 0 ts ts') :
    ts'.head?.map Token.text = ts.head?.map Token.text ∧ ts'.tail = ts.tail := by
  cases h with
  | here _ => exact ⟨rfl, rfl⟩

mutual

/-- Trees are kin when one has a remark where it does not show. -/
theorem kin_of_remark {r : Remark} {f : Token → Token} : ∀ {t t' : Tree} {n : Nat}, t.Solid →
    t'.Solid → t'.mapTokens f = t.mapTokens f → r.Before n t.tokens t'.tokens →
    t.showsBefore n = false → t'.Kin t
  | .leaf k x, .leaf k' x', n, _, _, hshape, h, _ => by
    obtain ⟨rfl, -⟩ := Tree.leaf.inj hshape
    cases h with
    | here _ => exact .leaf k' rfl
    | later h => cases h
  | .node k cs, .node k' cs', n, hsolid, hsolid', hshape, h, hshows => by
    obtain ⟨rfl, hcs⟩ := Tree.node.inj hshape
    rw [Tree.showsBefore, Bool.or_eq_false_iff] at hshows
    have hparts := forall₂_kin_of_remark (fun c hc => hsolid.part hc)
      (fun c hc => hsolid'.part hc) hcs h hshows.2
    refine .node hsolid.kind_node (fun hview => ?_) hparts
    -- A construct whose text shows has no place inside of it for the remark.
    obtain rfl : n = 0 := by
      rw [hview, Bool.true_and] at hshows
      simpa using hshows.1
    obtain ⟨hhead, htail⟩ := h.of_zero
    exact sameView_of_tail hsolid hsolid' hshape hhead htail
  | .leaf _ _, .node _ _, _, _, _, hshape, _, _ => by cases hshape
  | .node _ _, .leaf _ _, _, _, _, hshape, _, _ => by cases hshape

/-- Trees in a row are kin to those that have a remark in the first place where it does not show. -/
theorem forall₂_kin_of_remark {r : Remark} {f : Token → Token} : ∀ {cs cs' : List Tree} {n : Nat},
    (∀ c ∈ cs, c.Solid) → (∀ c ∈ cs', c.Solid) → mapTokensOfAll f cs' = mapTokensOfAll f cs →
    r.Before n (tokensOfAll cs) (tokensOfAll cs') → anyShowsBefore n cs = false →
    List.Forall₂ Tree.Kin cs' cs
  | [], [], _, _, _, _, _, _ => .nil
  | c :: cs, c' :: cs', n, hsolid, hsolid', hshape, h, hshows => by
    obtain ⟨hc, hcs⟩ := List.cons.inj hshape
    have hmore : ∀ d ∈ cs, d.Solid := fun d hd => hsolid d (List.mem_cons_of_mem c hd)
    rw [anyShowsBefore] at hshows
    -- The remark is in the first part, and the others are the same, or it is behind that part.
    rcases h.append (length_tokens_eq hc) with ⟨hlt, h, htokens⟩ | ⟨hle, htokens, h⟩
    · rw [if_pos hlt] at hshows
      rw [eq_of_tokensOfAll_eq hcs htokens]
      exact .cons (kin_of_remark (hsolid c List.mem_cons_self) (hsolid' c' List.mem_cons_self) hc h
        hshows) (List.forall₂_same.2 fun d hd => (hmore d hd).kin_self)
    · rw [if_neg (Nat.not_lt.2 hle)] at hshows
      rw [eq_of_tokens_eq hc htokens]
      exact .cons (hsolid c List.mem_cons_self).kin_self (forall₂_kin_of_remark hmore
        (fun d hd => hsolid' d (List.mem_cons_of_mem c' hd)) hcs h hshows)
  | [], _ :: _, _, _, _, hshape, _, _ => by cases hshape
  | _ :: _, [], _, _, _, hshape, _, _ => by cases hshape

end

/-! ## Compilation units -/

/-- A remark between two tokens of a text that is read changes no kind, name or signature where it
does not show, and the text is still read. -/
theorem elementsOf_remarked {source source' : String} {unit : Tree} {ts : Tokens}
    {ts' : List Token} {r : Remark} {n : Nat} (hunit : parse? source = some unit)
    (hts : tokenize? source = some ts) (hn : 0 < n) (h : r.Before n ts.tokens ts')
    (hsource' : source'.toList = charsOf ts' ts.tail) (hshows : unit.showsBefore n = false)
    (file : String) :
    (parse? source').isSome = true ∧
      (elementsOf source' file).map Element.key = (elementsOf source file).map Element.key := by
  have hts' := tokenize?_remarked hts hn h hsource'
  have hmap : ts'.map Token.plain = ts.tokens.map Token.plain :=
    map_plain_of_standsFor h.standsFor
  obtain ⟨unit', hunit', hshape⟩ := parse?_of_map_eq keepsWords_plain hunit hts hts' hmap
  obtain ⟨us, cs, hus, rfl, hsolid, htokens⟩ := parse?_eq_some hunit
  obtain ⟨us', cs', hus', rfl, hsolid', htokens'⟩ := parse?_eq_some hunit'
  obtain rfl := Option.some.inj (hus.symm.trans hts)
  obtain rfl := Option.some.inj (hus'.symm.trans hts')
  obtain ⟨-, hcs⟩ := Tree.node.inj hshape
  obtain rfl : tokensOfAll cs' = ts' := htokens'
  rw [← htokens] at h
  rw [Tree.showsBefore, Bool.or_eq_false_iff] at hshows
  have hparts := forall₂_kin_of_remark hsolid hsolid' hcs h hshows.2
  exact ⟨Option.isSome_of_eq_some hunit', map_key_elementsOf hunit hunit' hparts file⟩

/-- A class that extends another one, with a method. -/
def bareText : String :=
  "class A extends B \x7b int f(int a) \x7b \x7d \x7d"

/-- The tokens of the class. -/
def bareTokens : Tokens :=
  ⟨[⟨[], .word, "class"⟩, ⟨[.blank " "], .word, "A"⟩, ⟨[.blank " "], .word, "extends"⟩,
    ⟨[.blank " "], .word, "B"⟩, ⟨[.blank " "], .symbol, "\x7b"⟩, ⟨[.blank " "], .word, "int"⟩,
    ⟨[.blank " "], .word, "f"⟩, ⟨[], .symbol, "("⟩, ⟨[], .word, "int"⟩, ⟨[.blank " "], .word, "a"⟩,
    ⟨[], .symbol, ")"⟩, ⟨[.blank " "], .symbol, "\x7b"⟩, ⟨[.blank " "], .symbol, "\x7d"⟩,
    ⟨[.blank " "], .symbol, "\x7d"⟩], []⟩

/-- A remark of one word. -/
def baseRemark : Remark where
  before := [' ']
  inner := [' ', 'b', 'a', 's', 'e', ' ']
  after := [' ']
  before_ne := by decide
  before_space := by decide
  after_ne := by decide
  after_space := by decide
  closed := by decide
  nul_free := by decide

/-- The remark in the place of the white space before one of the tokens. -/
def remarkedTokens (n : Nat) : List Token :=
  bareTokens.tokens.modify n fun t => { t with lead := baseRemark.trivia }

/-- The remark before the name of the parameter. -/
def remarkedParameter : String :=
  "class A extends B \x7b int f(int /* base */ a) \x7b \x7d \x7d"

/-- The remark before the name of the extended class. -/
def remarkedClause : String :=
  "class A extends /* base */ B \x7b int f(int a) \x7b \x7d \x7d"

/-- The remark of the samples stands where there was one blank. -/
theorem entered_space : baseRemark.Entered [.blank " "] baseRemark.trivia :=
  @Remark.Entered.run baseRemark [] [] " " (by decide) (by decide) fun x hx => by cases hx

/-- The sample text is a class with one method, and a remark does not show in front of its tenth token.
-/
theorem parse?_bareText : (parse? bareText).map (fun unit =>
    (unit.showsBefore 9, (unitElements "A.java" unit).map Element.key)) =
    some (false, [(.type, some "A", some "class A extends B"),
      (.method, some "f", some "int f(int a)")]) := by
  decide +kernel

/-- The sample text has these tokens. -/
theorem tokenize?_bareText : tokenize? bareText = some bareTokens := by
  decide +kernel

/-- With a remark in front of a parameter the sample text has the same elements. -/
theorem elementsOf_remarked_parameter :
    (∃ unit, parse? bareText = some unit ∧ unit.showsBefore 9 = false) ∧
      tokenize? bareText = some bareTokens ∧ 0 < 9 ∧
      baseRemark.Before 9 bareTokens.tokens (remarkedTokens 9) ∧
      remarkedParameter.toList = charsOf (remarkedTokens 9) bareTokens.tail ∧
      (parse? remarkedParameter).isSome = true ∧
      (elementsOf remarkedParameter "A.java").map Element.key =
        (elementsOf bareText "A.java").map Element.key := by
  obtain ⟨unit, hunit, hvalues⟩ := Option.map_eq_some_iff.1 parse?_bareText
  have hshows : unit.showsBefore 9 = false := congrArg Prod.fst hvalues
  have hbefore : baseRemark.Before 9 bareTokens.tokens (remarkedTokens 9) :=
    .later (.later (.later (.later (.later (.later (.later (.later (.later
      (.here entered_space)))))))))
  have htext : remarkedParameter.toList = charsOf (remarkedTokens 9) bareTokens.tail := by
    decide +kernel
  exact ⟨⟨unit, hunit, hshows⟩, tokenize?_bareText, by decide, hbefore, htext,
    elementsOf_remarked hunit tokenize?_bareText (by decide) hbefore htext hshows "A.java"⟩

/-- Inside of a clause the remark is listed as if it was a type. -/
theorem elementsOf_remarked_clause :
    (∃ unit, parse? bareText = some unit) ∧ tokenize? bareText = some bareTokens ∧
      baseRemark.Before 3 bareTokens.tokens (remarkedTokens 3) ∧
      remarkedClause.toList = charsOf (remarkedTokens 3) bareTokens.tail ∧
      (elementsOf bareText "A.java").map Element.signature =
        [some "class A extends B", some "int f(int a)"] ∧
      (elementsOf remarkedClause "A.java").map Element.signature =
        [some "class A extends /* base */, B", some "int f(int a)"] := by
  obtain ⟨unit, hunit, hvalues⟩ := Option.map_eq_some_iff.1 parse?_bareText
  have hremarked : (parse? remarkedClause).map (fun unit =>
      (unitElements "A.java" unit).map Element.signature) =
      some [some "class A extends /* base */, B", some "int f(int a)"] := by
    decide +kernel
  obtain ⟨unit', hunit', hsignatures'⟩ := Option.map_eq_some_iff.1 hremarked
  have hsignatures : (unitElements "A.java" unit).map Element.signature =
      [some "class A extends B", some "int f(int a)"] := by
    have hkeys := congrArg (fun v => v.2.map fun k => k.2.2) hvalues
    rw [List.map_map] at hkeys
    exact hkeys
  have hbefore : baseRemark.Before 3 bareTokens.tokens (remarkedTokens 3) :=
    .later (.later (.later (.here entered_space)))
  have htext : remarkedClause.toList = charsOf (remarkedTokens 3) bareTokens.tail := by
    decide +kernel
  refine ⟨⟨unit, hunit⟩, tokenize?_bareText, hbefore, htext, ?_, ?_⟩
  · rw [elementsOf_eq hunit]
    exact hsignatures
  · rw [elementsOf_eq hunit']
    exact hsignatures'

end StructureGrader
