import StructureGrader.Proofs.Syntax.Lexing
import Mathlib.Data.List.Forall2

/-!
# Other trivia between the same tokens

Trivia stands for other trivia (`StandsFor`) when it may be laid wherever the other is, and no token
before it can tell the two apart: both are empty, or both start the same way up to the first white
space. A text whose trivia is replaced this way is cut into the same tokens (`Lexes.relay`,
`tokenize?_relay`).
-/

namespace StructureGrader.Syntax

/-! ## Openings of texts -/

/-- Texts with the same opening have it behind any text. -/
theorem opening_append_congr {r r' : List Char} (h : opening r = opening r') (w : List Char) :
    opening (w ++ r) = opening (w ++ r') := by
  induction w with
  | nil => exact h
  | cons c w ih =>
    unfold opening at ih ⊢
    rw [List.cons_append, List.cons_append, List.takeWhile_cons, List.takeWhile_cons, ih]

/-- Two characters at the front of the opening are at the front of the text. -/
theorem exists_of_opening_cons_cons {c d : Char} {rest cs : List Char} (hc : isSpace c = false)
    (hd : isSpace d = false) (h : opening (c :: d :: rest) = opening cs) :
    ∃ rest', cs = c :: d :: rest' := by
  obtain ⟨r, -, hcs⟩ := exists_opening_append cs
  rw [← h, opening_cons hc, opening_cons hd] at hcs
  exact ⟨_, hcs⟩

/-! ## Trivia in the place of trivia -/

/-- The first trivia may be laid wherever the second is, and what stands before cannot tell them
apart. -/
structure StandsFor (lead' lead : List Trivia) : Prop where
  isEmpty : lead'.isEmpty = lead.isEmpty
  laid {next next' : List Char} (hhead : next'.head? = next.head?) (hbare : Bare next')
    (h : Laid next lead) : Laid next' lead'
  opening {r r' : List Char} (h : opening r' = opening r) :
    Syntax.opening (leadChars lead' ++ r') = Syntax.opening (leadChars lead ++ r)

/-- Behind trivia that are laid the text is bare. -/
theorem Laid.bare {next : List Char} {lead : List Trivia} (h : Laid next lead) : Bare next := by
  induction h with
  | nil h => exact h
  | blank _ _ _ _ ih | line _ _ _ ih | block _ _ ih => exact ih

/-- Texts that start with the same character do so behind any text. -/
theorem head?_append_congr {r r' : List Char} (h : r'.head? = r.head?) (w : List Char) :
    (w ++ r').head? = (w ++ r).head? := by
  cases w with
  | nil => exact h
  | cons c w => rfl

/-- Trivia stand for themselves. -/
theorem StandsFor.refl (lead : List Trivia) : StandsFor lead lead where
  isEmpty := rfl
  laid {next next'} hhead hbare h := by
    induction h with
    | nil _ => exact .nil hbare
    | blank hne hspace hnext _ ih =>
      refine .blank hne hspace ?_ ih
      rw [head?_append_congr hhead]
      exact hnext
    | line hbody hnext _ ih =>
      refine .line hbody ?_ ih
      rw [head?_append_congr hhead]
      exact hnext
    | block hbody _ ih => exact .block hbody ih
  opening h := opening_append_congr h _

/-- The same token behind other trivia. -/
structure Token.StandsFor (t' t : Token) : Prop where
  tokenClass : t'.tokenClass = t.tokenClass
  text : t'.text = t.text
  lead : Syntax.StandsFor t'.lead t.lead

/-! ## Cutting the text -/

/-- No token starts with an open comment. -/
theorem step?_comment (emb : Embedding) (rest : List Char) : step? emb ('/' :: '*' :: rest) = none :=
  rfl

/-- What starts with a token goes on to do so. -/
theorem Bare.of_opening {emb : Embedding} {next next' : List Char} {s : Step} (h : Bare next)
    (hhead : next'.head? = next.head?) (hopening : opening next' = opening next)
    (hstep : step? emb next' = some s) : Bare next' where
  space := by
    rw [hhead]
    exact h.space
  line rest heq := by
    rw [heq] at hopening
    obtain ⟨rest', hrest'⟩ := exists_of_opening_cons_cons rfl rfl hopening
    exact h.line rest' hrest'
  block rest heq := by
    rw [heq, step?_comment] at hstep
    cases hstep

/-- A text whose trivia is replaced is cut into the same tokens. -/
theorem Lexes.relay {tail tail' : List Trivia} {emb : Embedding} {ts ts' : List Token}
    (h : Lexes tail emb ts) (htail : StandsFor tail' tail)
    (hts : List.Forall₂ Token.StandsFor ts' ts) :
    Lexes tail' emb ts' ∧ opening (charsOf ts' tail') = opening (charsOf ts tail) := by
  induction h generalizing ts' with
  | done hlaid =>
    cases hts
    refine ⟨.done (htail.laid rfl bare_nil hlaid), ?_⟩
    have hopening : opening (leadChars tail' ++ []) = opening (leadChars tail ++ []) :=
      htail.opening rfl
    rwa [List.append_nil, List.append_nil] at hopening
  | @token emb t ts emb' hlead hstep hmore ih =>
    cases hts with
    | @cons t' _ ts' _ ht hts =>
      obtain ⟨hlexes, hopening⟩ := ih hts
      have hstands := step?_stands hstep
      -- The same token is read from what follows the new trivia.
      have hstep' : step? emb (t'.text.toList ++ charsOf ts' tail') =
          some ⟨t'.tokenClass, t'.text.toList, emb', charsOf ts' tail'⟩ := by
        rw [ht.tokenClass, ht.text]
        exact hstands.stable _ hopening
      have hnext : opening (t'.text.toList ++ charsOf ts' tail') =
          opening (t.text.toList ++ charsOf ts tail) := by
        rw [ht.text]
        exact opening_append_congr hopening _
      have hhead : (t'.text.toList ++ charsOf ts' tail').head? =
          (t.text.toList ++ charsOf ts tail).head? := by
        rw [ht.text]
        obtain ⟨c, w, hw⟩ := List.exists_cons_of_ne_nil hstands.ne_nil
        dsimp only at hw
        rw [hw]
        rfl
      have hbare := hlead.bare.of_opening hhead hnext hstep'
      refine ⟨.token (ht.lead.laid hhead hbare hlead) hstep' hlexes, ?_⟩
      rw [charsOf_cons, charsOf_cons]
      exact ht.lead.opening hnext

/-! ## Source texts -/

/-- The same tokens behind other trivia, and other trivia at the end. -/
structure Tokens.StandsFor (us' us : Tokens) : Prop where
  tokens : List.Forall₂ Token.StandsFor us'.tokens us.tokens
  tail : Syntax.StandsFor us'.tail us.tail

/-- A mark in front of a source is read as a blank. -/
theorem byteOrderMark_of_mark {c : Char} (h : c.toNat = 0xFEFF) (rest : List Char) :
    byteOrderMark (c :: rest) = ([.blank (String.singleton c)], rest) :=
  if_pos (beq_iff_eq.2 h)

/-- A source without a mark in front is left as it is. -/
theorem byteOrderMark_of_head {cs : List Char} (h : ∀ c ∈ cs.head?, c.toNat ≠ 0xFEFF) :
    byteOrderMark cs = ([], cs) := by
  cases cs with
  | nil => rfl
  | cons c cs => exact if_neg fun heq => h c rfl (beq_iff_eq.1 heq)

/-- A mark is no white space. -/
theorem not_isSpace_of_mark {c : Char} (h : c.toNat = 0xFEFF) : isSpace c = false := by
  have hspaces : ∀ c ∈ spaces, c.toNat ≠ 0xFEFF := by decide
  exact Bool.of_not_eq_true fun hc => hspaces c (mem_spaces hc) h

/-- A text is cut into the same tokens when the trivia behind its byte order mark is replaced. -/
theorem tokenize?_relay {source source' : String} {us us' : Tokens}
    (hchars : charsOf us.tokens us.tail = (byteOrderMark source.toList).2)
    (hlexes : Lexes us.tail [] us.tokens) (hus : us'.StandsFor us)
    (hnul : nul ∉ charsOf us'.tokens us'.tail)
    (hsource' : source'.toList =
      leadChars (byteOrderMark source.toList).1 ++ charsOf us'.tokens us'.tail) :
    tokenize? source' = some (us'.behind (byteOrderMark source.toList).1) := by
  obtain ⟨hlexes', hopening⟩ := hlexes.relay hus.tail hus.tokens
  have hmark : byteOrderMark source'.toList =
      ((byteOrderMark source.toList).1, charsOf us'.tokens us'.tail) := by
    rw [hsource']
    by_cases hmark : ∃ c rest, source.toList = c :: rest ∧ c.toNat = 0xFEFF
    · obtain ⟨c, rest, hsource, hc⟩ := hmark
      rw [hsource, byteOrderMark_of_mark hc, leadChars_cons, Trivia.text, String.toList_singleton]
      exact byteOrderMark_of_mark hc _
    · have hhead : ∀ c ∈ source.toList.head?, c.toNat ≠ 0xFEFF := by
        intro c hc heq
        obtain ⟨rest, hrest⟩ := List.head?_eq_some_iff.1 hc
        exact hmark ⟨c, rest, hrest, heq⟩
      rw [byteOrderMark_of_head hhead] at hchars ⊢
      refine byteOrderMark_of_head fun c hc heq => ?_
      -- No mark comes in front: it would be in the opening, and so in front of the old text.
      have hold := head?_of_opening hopening (not_isSpace_of_mark heq) hc
      rw [hchars] at hold
      exact hhead c hold heq
  refine tokenize?_eq_some_iff.2 ⟨us', ?_, hnul, hlexes', ?_⟩ <;> rw [hmark]

end StructureGrader.Syntax
