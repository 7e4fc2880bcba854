import StructureGrader.Proofs.Syntax.Relaying
import StructureGrader.Proofs.Syntax.Shape

/-!
# Layout

A text is re-indented when runs of spaces, tabs and line ends are replaced by other such runs outside
of literals; no run becomes empty (`Respaced`, `Reindented`). When there are no comments, the
re-indented text is cut into the same tokens, with white space between the same two
(`tokenize?_reindented`): a token holds no white space but inside of a literal.
-/

namespace StructureGrader.Syntax

/-! ## Replacing runs -/

/-- The characters that lay out a text. -/
def isLayout (c : Char) : Bool :=
  c == ' ' || c == '\t' || c == '\n'

/-- Runs of layout characters are replaced by other runs, none of them empty. -/
inductive Respaced : List Char → List Char → Prop
  | nil : Respaced [] []
  | keep (c : Char) {cs cs' : List Char} (h : Respaced cs cs') : Respaced (c :: cs) (c :: cs')
  | run {w w' cs cs' : List Char} (hne : w ≠ []) (hne' : w' ≠ [])
      (hlayout : ∀ c ∈ w, isLayout c = true) (hlayout' : ∀ c ∈ w', isLayout c = true)
      (h : Respaced cs cs') : Respaced (w ++ cs) (w' ++ cs')

/-- The text of tokens, and of the trivia after them, with runs of layout characters replaced
outside of literals. -/
inductive Reindented (tail : List Trivia) : List Token → List Char → Prop
  | tail {cs : List Char} (h : Respaced (leadChars tail) cs) : Reindented tail [] cs
  | literal {t : Token} {ts : List Token} {lead' cs : List Char}
      (hclass : t.tokenClass.isLiteral = true) (hlead : Respaced (leadChars t.lead) lead')
      (h : Reindented tail ts cs) : Reindented tail (t :: ts) (lead' ++ (t.text.toList ++ cs))
  | code {t : Token} {ts : List Token} {code' cs : List Char}
      (hclass : t.tokenClass.isLiteral = false)
      (hcode : Respaced (leadChars t.lead ++ t.text.toList) code')
      (h : Reindented tail ts cs) : Reindented tail (t :: ts) (code' ++ cs)

namespace Respaced

/-- Only the empty text is respaced to the empty one. -/
theorem nil_iff {cs cs' : List Char} (h : Respaced cs cs') : cs = [] ↔ cs' = [] := by
  cases h with
  | nil => exact Iff.rfl
  | keep c h => exact iff_of_false (List.cons_ne_nil _ _) (List.cons_ne_nil _ _)
  | run hne hne' _ _ h =>
    exact iff_of_false (List.append_ne_nil_of_left_ne_nil hne _)
      (List.append_ne_nil_of_left_ne_nil hne' _)

/-- A text is respaced to itself. -/
theorem refl (cs : List Char) : Respaced cs cs := by
  induction cs with
  | nil => exact .nil
  | cons c cs ih => exact .keep c ih

/-- Two texts respaced make one that is. -/
theorem append {cs cs' ds ds' : List Char} (h : Respaced cs cs') (h' : Respaced ds ds') :
    Respaced (cs ++ ds) (cs' ++ ds') := by
  induction h with
  | nil => exact h'
  | keep c _ ih => exact .keep c ih
  | run hne hne' hlayout hlayout' _ ih =>
    rw [List.append_assoc, List.append_assoc]
    exact .run hne hne' hlayout hlayout' ih

/-- Only layout characters are added. -/
theorem mem {cs cs' : List Char} (h : Respaced cs cs') {c : Char} (hc : c ∈ cs') :
    c ∈ cs ∨ isLayout c = true := by
  induction h with
  | nil => exact absurd hc List.not_mem_nil
  | keep d h ih =>
    rcases List.mem_cons.1 hc with rfl | hc
    · exact .inl List.mem_cons_self
    · exact (ih hc).imp_left (List.mem_cons_of_mem d)
  | run _ _ _ hlayout' h ih =>
    rcases List.mem_append.1 hc with hc | hc
    · exact .inr (hlayout' c hc)
    · exact (ih hc).imp_left (List.mem_append_right _)

/-- A character that is no layout character stays in front. -/
theorem exists_of_cons {c : Char} {cs cs' : List Char} (h : Respaced (c :: cs) cs')
    (hc : isLayout c = false) : ∃ ds, cs' = c :: ds ∧ Respaced cs ds := by
  generalize hcs : c :: cs = full at h
  cases h with
  | nil => cases hcs
  | keep d h =>
    obtain ⟨rfl, rfl⟩ := List.cons.inj hcs
    exact ⟨_, rfl, h⟩
  | @run w w' rest rest' hne hne' hlayout hlayout' h =>
    obtain ⟨d, w, rfl⟩ := List.exists_cons_of_ne_nil hne
    obtain ⟨rfl, -⟩ := List.cons.inj hcs
    rw [hlayout c List.mem_cons_self] at hc
    cases hc

/-- A front without layout characters is kept by a respacing. -/
theorem exists_of_append_left {w cs cs' : List Char} (h : Respaced (w ++ cs) cs')
    (hw : ∀ c ∈ w, isLayout c = false) : ∃ ds, cs' = w ++ ds ∧ Respaced cs ds := by
  induction w generalizing cs' with
  | nil => exact ⟨cs', rfl, h⟩
  | cons c w ih =>
    obtain ⟨ds, rfl, hds⟩ := h.exists_of_cons (hw c List.mem_cons_self)
    obtain ⟨es, rfl, hes⟩ := ih hds fun d hd => hw d (List.mem_cons_of_mem c hd)
    exact ⟨es, rfl, hes⟩

/-- Characters that are no layout characters stay behind, too. -/
theorem exists_of_append_right {cs w cs' : List Char} (h : Respaced (cs ++ w) cs')
    (hw : ∀ c ∈ w, isLayout c = false) : ∃ ds, cs' = ds ++ w ∧ Respaced cs ds := by
  generalize hfull : cs ++ w = full at h
  induction h generalizing cs with
  | nil =>
    obtain ⟨rfl, rfl⟩ := List.append_eq_nil_iff.1 hfull
    exact ⟨[], rfl, .nil⟩
  | @keep c rest rest' h ih =>
    cases cs with
    | nil =>
      -- All of the text is of the characters that stay.
      obtain rfl : w = c :: rest := hfull
      have hself : Respaced (c :: rest ++ []) (c :: rest') := by
        rw [List.append_nil]
        exact .keep c h
      obtain ⟨ds, hds, hrest⟩ := hself.exists_of_append_left hw
      obtain rfl := hrest.nil_iff.1 rfl
      rw [List.append_nil] at hds
      exact ⟨[], hds, .nil⟩
    | cons d cs =>
      obtain ⟨rfl, rfl⟩ := List.cons.inj hfull
      obtain ⟨ds, rfl, hds⟩ := ih rfl
      exact ⟨d :: ds, rfl, .keep d hds⟩
  | @run v v' rest rest' hne hne' hlayout hlayout' h ih =>
    rcases List.append_eq_append_iff.1 hfull with ⟨u, rfl, rfl⟩ | ⟨u, rfl, rfl⟩
    · -- What the run holds of the characters that stay is nothing.
      obtain rfl : u = [] := by
        cases u with
        | nil => rfl
        | cons c u =>
          have hc := hlayout c (List.mem_append_right _ List.mem_cons_self)
          rw [hw c List.mem_cons_self] at hc
          cases hc
      obtain ⟨ds, rfl, hds⟩ := @ih [] rfl
      rw [List.append_nil] at hne hlayout
      refine ⟨v' ++ ds, (List.append_assoc ..).symm, ?_⟩
      have hrun := Respaced.run hne hne' hlayout hlayout' hds
      rwa [List.append_nil] at hrun
    · obtain ⟨ds, rfl, hds⟩ := ih rfl
      exact ⟨v' ++ ds, (List.append_assoc ..).symm, .run hne hne' hlayout hlayout' hds⟩

end Respaced

/-- It is enough to re-indent what stands before each token. -/
theorem Reindented.of_leads {tail : List Trivia} {tail' : List Char} {ts : List Token}
    {leads : List (List Char)} (htail : Respaced (leadChars tail) tail')
    (h : List.Forall₂ (fun t lead => Respaced (leadChars t.lead) lead) ts leads) :
    Reindented tail ts
      ((List.zipWith (fun t lead => lead ++ t.text.toList) ts leads).flatten ++ tail') := by
  induction h with
  | nil => exact .tail htail
  | @cons t lead ts leads hlead _ ih =>
    rw [List.zipWith_cons_cons, List.flatten_cons, List.append_assoc]
    cases hclass : t.tokenClass.isLiteral with
    | true =>
      rw [List.append_assoc]
      exact .literal hclass hlead ih
    | false => exact .code hclass (hlead.append (.refl _)) ih

/-! ## Trivia without comments -/

/-- Nothing, or one run of white space. -/
inductive IsPlain : List Trivia → Prop
  | nil : IsPlain []
  | blank {w : List Char} (hne : w ≠ []) (hspace : ∀ c ∈ w, isSpace c = true) :
      IsPlain [.blank (String.ofList w)]

/-- A layout character is white space. -/
theorem isSpace_of_isLayout {c : Char} (h : isLayout c = true) : isSpace c = true := by
  unfold isLayout at h
  rw [Bool.or_eq_true, Bool.or_eq_true] at h
  rcases h with (h | h) | h <;> rw [eq_of_beq h] <;> rfl

/-- What is no white space is no layout character. -/
theorem not_isLayout_of_not_isSpace {c : Char} (h : isSpace c = false) : isLayout c = false := by
  by_contra hc
  rw [isSpace_of_isLayout (Bool.of_not_eq_false hc)] at h
  cases h

/-- Trivia without comments is one run of white space at most: a second one would be part of the
first. -/
theorem Laid.isPlain {next : List Char} {lead : List Trivia} (h : Laid next lead)
    (hcomments : lead.filterMap Trivia.comment? = []) : IsPlain lead := by
  induction h with
  | nil _ => exact .nil
  | @blank w lead hne hspace hnext h ih =>
    cases ih hcomments with
    | nil => exact .blank hne hspace
    | @blank w' hne' hspace' =>
      obtain ⟨c, w', rfl⟩ := List.exists_cons_of_ne_nil hne'
      have hc := hnext c (by rw [leadChars_cons, Trivia.text, String.toList_ofList]; rfl)
      rw [hspace' c List.mem_cons_self] at hc
      cases hc
  | line _ _ _ _ => cases hcomments
  | block _ _ _ => cases hcomments

/-- Two runs of white space stand for each other. -/
theorem standsFor_blank {w w' : List Char} (hne : w ≠ []) (hspace : ∀ c ∈ w, isSpace c = true)
    (hne' : w' ≠ []) (hspace' : ∀ c ∈ w', isSpace c = true) :
    StandsFor [.blank (String.ofList w')] [.blank (String.ofList w)] where
  isEmpty := rfl
  laid _ hbare _ := .blank hne' hspace' hbare.space (.nil hbare)
  opening _ := by
    have hbreaks : ∀ v r : List Char, v ≠ [] → (∀ c ∈ v, isSpace c = true) →
        opening (leadChars [.blank (String.ofList v)] ++ r) = [] := by
      intro v r hv hspaces
      obtain ⟨c, v, rfl⟩ := List.exists_cons_of_ne_nil hv
      refine opening_of_breaks fun d hd => ?_
      rw [leadChars_cons, Trivia.text, String.toList_ofList] at hd
      obtain rfl : c = d := Option.some.inj hd
      exact hspaces c List.mem_cons_self
    rw [hbreaks w _ hne hspace, hbreaks w' _ hne' hspace']

/-- What re-indenting makes of trivia without comments stands for it. -/
theorem IsPlain.exists_respaced {lead : List Trivia} (hlead : IsPlain lead) {cs : List Char}
    (h : Respaced (leadChars lead) cs) :
    ∃ lead', leadChars lead' = cs ∧ IsPlain lead' ∧ StandsFor lead' lead := by
  cases hlead with
  | nil =>
    obtain rfl := h.nil_iff.1 rfl
    exact ⟨[], rfl, .nil, .refl []⟩
  | @blank w hne hspace =>
    have hchars : ∀ v : List Char, leadChars [.blank (String.ofList v)] = v := by
      intro v
      rw [leadChars_cons, Trivia.text, String.toList_ofList, leadChars_nil, List.append_nil]
    rw [hchars] at h
    have hne' : cs ≠ [] := fun hcs => hne (h.nil_iff.2 hcs)
    have hspace' : ∀ c ∈ cs, isSpace c = true := fun c hc =>
      (h.mem hc).elim (hspace c) isSpace_of_isLayout
    exact ⟨_, hchars cs, .blank hne' hspace', standsFor_blank hne hspace hne' hspace'⟩

/-! ## Tokens -/

/-- No comment stands before a token or at the end. -/
def Tokens.IsFree (ts : Tokens) : Prop :=
  (∀ t ∈ ts.tokens, t.comments = []) ∧ ts.tail.filterMap Trivia.comment? = []

/-- The tokens of a re-indented text. -/
theorem Reindented.exists_tokens {tail : List Trivia} {emb : Embedding} {ts : List Token}
    {cs : List Char} (hlexes : Lexes tail emb ts) (h : Reindented tail ts cs)
    (hcomments : ∀ t ∈ ts, t.comments = []) (htail : tail.filterMap Trivia.comment? = []) :
    ∃ ts' tail', charsOf ts' tail' = cs ∧ StandsFor tail' tail ∧
      List.Forall₂ Token.StandsFor ts' ts ∧ ∀ t ∈ ts', IsPlain t.lead := by
  induction hlexes generalizing cs with
  | @done emb hlaid =>
    cases h with
    | tail hcs =>
      obtain ⟨tail', rfl, -, hstands⟩ := (hlaid.isPlain htail).exists_respaced hcs
      exact ⟨[], tail', rfl, hstands, .nil, fun t ht => absurd ht List.not_mem_nil⟩
  | @token emb t ts emb' hlead hstep hmore ih =>
    have hplain := hlead.isPlain (hcomments t List.mem_cons_self)
    have hmoreComments : ∀ u ∈ ts, u.comments = [] := fun u hu =>
      hcomments u (List.mem_cons_of_mem t hu)
    -- In both cases the trivia is re-indented, and the token stays as it is.
    obtain ⟨lead', more, hlead', rfl, hmore'⟩ : ∃ lead' more, Respaced (leadChars t.lead) lead' ∧
        cs = lead' ++ (t.text.toList ++ more) ∧ Reindented tail ts more := by
      cases h with
      | literal hclass hlead' h => exact ⟨_, _, hlead', rfl, h⟩
      | @code _ _ code' more hclass hcode h =>
        have hlayout : ∀ c ∈ t.text.toList, isLayout c = false := fun c hc =>
          not_isLayout_of_not_isSpace (step?_not_isSpace hstep hclass c hc)
        obtain ⟨lead', rfl, hlead'⟩ := hcode.exists_of_append_right hlayout
        exact ⟨lead', more, hlead', List.append_assoc .., h⟩
    obtain ⟨lead'', rfl, hplain', hstands⟩ := hplain.exists_respaced hlead'
    obtain ⟨ts', tail', rfl, htail', hts', hplains⟩ := ih hmore' hmoreComments
    refine ⟨{ t with lead := lead'' } :: ts', tail', charsOf_cons _ _ _, htail',
      .cons ⟨rfl, rfl, hstands⟩ hts', fun u hu => ?_⟩
    rcases List.mem_cons.1 hu with rfl | hu
    · exact hplain'
    · exact hplains u hu

/-- In a text without comments, what stands before each token is plain. -/
theorem Lexes.isPlain {tail : List Trivia} {emb : Embedding} {ts : List Token}
    (h : Lexes tail emb ts) (hcomments : ∀ t ∈ ts, t.comments = []) :
    ∀ t ∈ ts, IsPlain t.lead := by
  induction h with
  | done _ => exact fun t ht => absurd ht List.not_mem_nil
  | @token emb t ts emb' hlead _ _ ih =>
    intro u hu
    rcases List.mem_cons.1 hu with rfl | hu
    · exact hlead.isPlain (hcomments u List.mem_cons_self)
    · exact ih (fun v hv => hcomments v (List.mem_cons_of_mem t hv)) u hu

/-- Re-indenting adds layout characters only. -/
theorem Reindented.mem {tail : List Trivia} {ts : List Token} {cs : List Char}
    (h : Reindented tail ts cs) {c : Char} (hc : c ∈ cs) :
    c ∈ charsOf ts tail ∨ isLayout c = true := by
  induction h with
  | tail h => exact h.mem hc
  | literal _ hlead _ ih =>
    rw [charsOf_cons, List.mem_append, List.mem_append]
    rcases List.mem_append.1 hc with hc | hc
    · exact (hlead.mem hc).imp_left .inl
    · rcases List.mem_append.1 hc with hc | hc
      · exact .inl (.inr (.inl hc))
      · exact (ih hc).imp_left fun hc => .inr (.inr hc)
  | code _ hcode _ ih =>
    rw [charsOf_cons, ← List.append_assoc, List.mem_append]
    rcases List.mem_append.1 hc with hc | hc
    · exact (hcode.mem hc).imp_left .inl
    · exact (ih hc).imp_left .inr

/-! ## Source texts -/

/-- The token with one space for the trivia before it, whatever that is. -/
def Token.plain (t : Token) : Token :=
  { t with lead := if t.lead.isEmpty then [] else [.blank " "] }

/-- A token with one space before it reads as the token does. -/
theorem keepsWords_plain : KeepsWords Token.plain where
  tokenClass _ := rfl
  text _ := rfl
  isGlued t := by
    unfold Token.isGlued Token.plain
    cases h : t.lead <;> rfl

/-- Tokens of one class and one text, both with or without something before them, are the same with
one space for it. -/
theorem Token.plain_eq {t t' : Token} (hclass : t'.tokenClass = t.tokenClass)
    (htext : t'.text = t.text) (hempty : t'.lead.isEmpty = t.lead.isEmpty) :
    t'.plain = t.plain := by
  unfold Token.plain
  rw [hclass, htext, hempty]

/-- Tokens that stand for others are the same with one space before each. -/
theorem map_plain_of_standsFor {ts ts' : List Token} (h : List.Forall₂ Token.StandsFor ts' ts) :
    ts'.map Token.plain = ts.map Token.plain := by
  induction h with
  | nil => rfl
  | cons ht _ ih =>
    rw [List.map_cons, List.map_cons, ih, Token.plain_eq ht.tokenClass ht.text ht.lead.isEmpty]

/-- Trivia in front of both does not tell the tokens apart. -/
theorem Tokens.StandsFor.map_plain_behind {us us' : Tokens} (h : us'.StandsFor us)
    (front : List Trivia) :
    (us'.behind front).tokens.map Token.plain = (us.behind front).tokens.map Token.plain := by
  obtain ⟨ts, tail⟩ := us
  obtain ⟨ts', tail'⟩ := us'
  obtain ⟨htokens, -⟩ := h
  cases htokens with
  | nil => rfl
  | @cons t' t more' more ht hmore =>
    have hempty : (front ++ t'.lead).isEmpty = (front ++ t.lead).isEmpty := by
      cases front with
      | nil => exact ht.lead.isEmpty
      | cons x front => rfl
    dsimp only [Tokens.behind]
    rw [List.map_cons, List.map_cons, map_plain_of_standsFor hmore]
    exact congrArg (· :: _) (Token.plain_eq ht.tokenClass ht.text hempty)

/-- Behind the first token the tokens stay as they are when something is put in front. -/
theorem Tokens.tail_behind (us : Tokens) (front : List Trivia) :
    (us.behind front).tokens.tail = us.tokens.tail := by
  obtain ⟨_ | ⟨t, ts⟩, tail⟩ := us <;> rfl

/-- Tokens are free of comments where they are so with something put in front. -/
theorem Tokens.IsFree.of_behind {us : Tokens} {front : List Trivia}
    (h : (us.behind front).IsFree) : us.IsFree := by
  obtain ⟨_ | ⟨t, ts⟩, tail⟩ := us
  · refine ⟨fun t ht => absurd ht List.not_mem_nil, ?_⟩
    have htail : (front ++ tail).filterMap Trivia.comment? = [] := h.2
    rw [List.filterMap_append] at htail
    exact (List.append_eq_nil_iff.1 htail).2
  · refine ⟨fun u hu => ?_, h.2⟩
    rcases List.mem_cons.1 hu with rfl | hu
    · have hu' : (front ++ u.lead).filterMap Trivia.comment? = [] := h.1 _ List.mem_cons_self
      rw [List.filterMap_append] at hu'
      exact (List.append_eq_nil_iff.1 hu').2
    · exact h.1 u (List.mem_cons_of_mem _ hu)

/-- Tokens reindented behind a front without layout characters are reindented by themselves. -/
theorem Reindented.of_behind {us : Tokens} {front : List Trivia} {cs : List Char}
    (hfront : ∀ c ∈ leadChars front, isLayout c = false)
    (h : Reindented (us.behind front).tail (us.behind front).tokens cs) :
    ∃ ds, cs = leadChars front ++ ds ∧ Reindented us.tail us.tokens ds := by
  obtain ⟨_ | ⟨t, ts⟩, tail⟩ := us
  · cases h with
    | tail h =>
      dsimp only [Tokens.behind] at h
      rw [leadChars_append] at h
      obtain ⟨ds, rfl, hds⟩ := h.exists_of_append_left hfront
      exact ⟨ds, rfl, .tail hds⟩
  · dsimp only [Tokens.behind] at h
    cases h with
    | literal hclass hlead hmore =>
      dsimp only at hlead
      rw [leadChars_append] at hlead
      obtain ⟨ds, rfl, hds⟩ := hlead.exists_of_append_left hfront
      exact ⟨_, List.append_assoc .., .literal hclass hds hmore⟩
    | code hclass hcode hmore =>
      dsimp only at hcode
      rw [leadChars_append, List.append_assoc] at hcode
      obtain ⟨ds, rfl, hds⟩ := hcode.exists_of_append_left hfront
      exact ⟨_, List.append_assoc .., .code hclass hds hmore⟩

/-- The mark in front of a source has no layout character in it. -/
theorem not_isLayout_byteOrderMark (cs : List Char) :
    ∀ c ∈ leadChars (byteOrderMark cs).1, isLayout c = false := by
  intro c hc
  unfold byteOrderMark at hc
  split at hc
  · split_ifs at hc with hmark
    · rw [leadChars_cons, Trivia.text, String.toList_singleton] at hc
      rw [List.mem_singleton.1 hc]
      exact not_isLayout_of_not_isSpace (not_isSpace_of_mark (eq_of_beq hmark))
    · exact absurd hc List.not_mem_nil
  · exact absurd hc List.not_mem_nil

/-- A text without comments that is re-indented is cut into the same tokens, with white space
between the same two. -/
theorem tokenize?_reindented {source source' : String} {ts : Tokens}
    (hts : tokenize? source = some ts) (hfree : ts.IsFree)
    (h : Reindented ts.tail ts.tokens source'.toList) :
    ∃ ts', tokenize? source' = some ts' ∧
      ts'.tokens.map Token.plain = ts.tokens.map Token.plain ∧
      (∀ t ∈ ts.tokens.tail, IsPlain t.lead) ∧ ∀ t ∈ ts'.tokens.tail, IsPlain t.lead := by
  obtain ⟨us, hchars, hnul, hlexes, rfl⟩ := tokenize?_eq_some_iff.1 hts
  have husFree := hfree.of_behind
  obtain ⟨ds, hsource', hds⟩ := h.of_behind (not_isLayout_byteOrderMark source.toList)
  obtain ⟨ts', tail', rfl, htail', hts', hplain'⟩ :=
    Reindented.exists_tokens hlexes hds husFree.1 husFree.2
  have hstands : (⟨ts', tail'⟩ : Tokens).StandsFor us := ⟨hts', htail'⟩
  have hnul' : nul ∉ charsOf ts' tail' := fun hmem =>
    (hds.mem hmem).elim hnul fun hlayout => by cases hlayout
  refine ⟨_, tokenize?_relay hchars hlexes hstands hnul' hsource', hstands.map_plain_behind _,
    fun t ht => ?_, fun t ht => ?_⟩
  · rw [Tokens.tail_behind] at ht
    exact hlexes.isPlain husFree.1 t (List.mem_of_mem_tail ht)
  · rw [Tokens.tail_behind] at ht
    exact hplain' t (List.mem_of_mem_tail ht)

end StructureGrader.Syntax
